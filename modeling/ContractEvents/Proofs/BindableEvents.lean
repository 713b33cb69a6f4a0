/-
Module: ContractEvents.Proofs.BindableEvents
Purpose: Which declared events some record can be decoded as.
Main exports: EventDescriptor.Bindable, EventDescriptor.fullRecord,
  EventDecoder.exists_decoded_iff
-/
import ContractEvents.Proofs.ShadowedEvents

namespace ContractEvents

/-!
The payload alone decides whether an event can be decoded at all.  A map has one entry for all
fields of a name and gives it to the first of them, and a single value is given to one field; a
vector has an item for every field.  Topics are told by their position, so the names of topic fields
do not matter.  Where the payload has room for every field, the record that holds the literals of
the event and a void for every field is decoded.
-/

namespace EventDescriptor

variable {descriptor : EventDescriptor}

/-- A payload of the declared shape has room for every payload field. -/
def Bindable (descriptor : EventDescriptor) : Prop :=
  descriptor.payloadShape = .vector ∨
    descriptor.payloadShape = .map ∧ (descriptor.payloadFields.map (·.name)).Nodup ∨
    descriptor.payloadShape = .singleValue ∧ descriptor.payloadFields.length ≤ 1

instance (descriptor : EventDescriptor) : Decidable descriptor.Bindable :=
  inferInstanceAs (Decidable (_ ∨ _ ∧ _ ∨ _ ∧ _))

/-- The names of payload fields are distinct if each is the first of its name. -/
theorem nodup_payloadNames_iff :
    (descriptor.payloadFields.map (·.name)).Nodup ↔
      ∀ (slot : Nat) (field : EventField), descriptor.fields[slot]? = some field →
        field.location = .payload → descriptor.FirstOfName slot field.name := by
  rw [payloadFields, List.Nodup, List.pairwise_map, List.pairwise_filter,
    List.pairwise_iff_getElem]
  constructor
  · intro distinct slot field fieldAt located earlier member earlierLocated
    obtain ⟨inside, rfl⟩ := List.getElem?_eq_some_iff.mp fieldAt
    obtain ⟨i, before, rfl⟩ := List.mem_take_iff_getElem.mp member
    exact distinct i slot (by omega) inside (by omega) (by simpa using earlierLocated)
      (by simpa using located)
  · intro first i j insideI insideJ before locatedI locatedJ
    exact first j _ (List.getElem?_eq_getElem insideJ) (by simpa using locatedJ) _
      (List.mem_take_iff_getElem.mpr ⟨i, by omega, rfl⟩) (by simpa using locatedI)

/-! ### Room for every field is needed -/

variable {answer : Answers} {record : EventRecord}

theorem bindable_of_bound (bound : ¬ descriptor.PayloadUnbound answer record) :
    descriptor.Bindable := by
  have finds (slot : Nat) (field : EventField) (fieldAt : descriptor.fields[slot]? = some field)
      (located : field.location = .payload) :
      descriptor.fieldValue? answer record slot field ≠ none :=
    fun free => bound ⟨slot, field, fieldAt, located, free⟩
  cases shape : descriptor.payloadShape with
  | vector => exact .inl shape
  | map =>
      refine .inr (.inl ⟨shape, nodup_payloadNames_iff.mpr ?_⟩)
      intro slot field fieldAt located
      by_contra repeated
      apply finds slot field fieldAt located
      simp only [fieldValue?, located, shape, if_neg repeated]
  | singleValue =>
      refine .inr (.inr ⟨shape, ?_⟩)
      by_contra several
      obtain ⟨slot, field, second⟩ := descriptor.exists_nth (Nat.lt_of_not_le several)
      apply finds slot field second.fieldAt second.located
      simp [fieldValue?, second.located, shape, second.counted]

/-! ### Room for every field is enough -/

/-- A payload with a void for every payload field. -/
def fullPayload (descriptor : EventDescriptor) : Value :=
  match descriptor.payloadShape with
  | .map => .map (some (descriptor.payloadFields.map fun field =>
      (.string (Utf8.encode field.name), .void)))
  | .vector => .vec (some (descriptor.payloadFields.map fun _ => .void))
  | .singleValue => .void

/-- The literals of an event, and a void for every field. -/
def fullRecord (descriptor : EventDescriptor) : EventRecord where
  topics := (EventCatalog.ownRecord descriptor).topics
  payload := descriptor.fullPayload

theorem fullRecord_matches (descriptor : EventDescriptor) :
    descriptor.Matches Value.decode descriptor.fullRecord where
  enough := (EventCatalog.ownRecord_matches descriptor).enough
  agrees := (EventCatalog.ownRecord_matches descriptor).agrees

theorem fullPayload_shaped (descriptor : EventDescriptor) :
    ¬ descriptor.Misshapen descriptor.fullPayload := by
  cases shape : descriptor.payloadShape <;> simp [Misshapen, fullPayload, shape]

theorem name?_encode (name : String) :
    Answers.name? Value.decode (.string (Utf8.encode name)) = some name := by
  rw [Answers.name?, Value.decode, textOfBytes, Utf8.decode_encode]
  rfl

theorem fullRecord_bound (bindable : descriptor.Bindable) :
    ¬ descriptor.PayloadUnbound Value.decode descriptor.fullRecord := by
  rintro ⟨slot, field, fieldAt, located, free⟩
  have ranked := rank_lt fieldAt located
  rcases bindable with shape | ⟨shape, distinct⟩ | ⟨shape, few⟩
  · simp only [fieldValue?, located, shape, fullRecord, fullPayload, EventDecoder.itemsOf,
      List.getElem?_eq_none_iff, List.length_map] at free
    exact absurd ranked (Nat.not_lt.mpr free)
  · have first := nodup_payloadNames_iff.mp distinct slot field fieldAt located
    have declared : field ∈ descriptor.payloadFields :=
      List.mem_filter.mpr ⟨List.mem_of_getElem? fieldAt, by simpa using located⟩
    have found := Answers.isSome_valueNamed? Value.decode
      (List.mem_map_of_mem (f := fun field : EventField =>
        (Value.string (Utf8.encode field.name), Value.void)) declared) (name?_encode field.name)
    simp only [fieldValue?, located, shape, if_pos first, fullRecord, fullPayload,
      EventDecoder.entriesOf] at free
    rw [free] at found
    cases found
  · have only := Nat.lt_one_iff.mp (Nat.lt_of_lt_of_le ranked few)
    simp [fieldValue?, located, shape, only] at free

theorem fullRecord_accepted (bindable : descriptor.Bindable) :
    descriptor.Accepted Value.decode descriptor.fullRecord :=
  ⟨fullRecord_matches descriptor, fullPayload_shaped descriptor, fullRecord_bound bindable⟩

/-- The payload of a full record fits on the wire if its keys and their number do. -/
theorem fullPayload_sized
    (names : ∀ field ∈ descriptor.payloadFields,
      (Utf8.encode field.name).length ≤ Xdr.Reader.unbounded)
    (count : descriptor.payloadFields.length ≤ Xdr.Reader.unbounded) :
    descriptor.fullPayload.Sized := by
  rw [fullPayload]
  cases descriptor.payloadShape with
  | singleValue => trivial
  | vector =>
      refine ⟨by simpa using count, Value.sizedItems_iff.mpr ?_⟩
      intro item member
      obtain ⟨field, -, rfl⟩ := List.mem_map.mp member
      trivial
  | map =>
      refine ⟨by simpa using count, Value.sizedEntries_iff.mpr ?_⟩
      intro entry member
      obtain ⟨field, declared, rfl⟩ := List.mem_map.mp member
      exact ⟨names field declared, trivial⟩

end EventDescriptor

namespace EventDecoder

variable {descriptor : EventDescriptor}

/-- A record is decoded exactly if no stage rejects it. -/
theorem exists_event_iff {answer : Answers} {record : EventRecord} :
    (∃ event, ((compile descriptor).decode (.ofFunction answer) record).run.run () =
        (.ok event, ())) ↔
      descriptor.Accepted answer record := by
  obtain ⟨verdict, decoded⟩ := exists_decode_settled answer descriptor record
  rw [← verdict_eq_ok_iff decoded, decoded]
  constructor
  · rintro ⟨event, ran⟩
    exact ⟨event, congrArg Prod.fst ran⟩
  · rintro ⟨event, rfl⟩
    exact ⟨event, rfl⟩

/-- With the native decoder, some record is decoded as an event exactly if the payload has room for
every payload field, whatever the topic fields are called.  Such a record fits on the wire, with no
more topics than the event asks for. -/
theorem exists_decoded_iff
    (literals : ∀ literal ∈ descriptor.prefixTopics,
      (Utf8.encode literal).length ≤ Xdr.Reader.unbounded)
    (names : ∀ field ∈ descriptor.payloadFields,
      (Utf8.encode field.name).length ≤ Xdr.Reader.unbounded)
    (count : descriptor.payloadFields.length ≤ Xdr.Reader.unbounded) :
    ((∃ record event, ((compile descriptor).decode .native record).run.run () =
        (.ok event, ())) ↔ descriptor.Bindable) ∧
      (descriptor.Bindable → ∃ record event,
        ((compile descriptor).decode .native record).run.run () = (.ok event, ()) ∧
          (∀ topic ∈ record.topics, topic.Sized) ∧ record.payload.Sized ∧
          record.topics.length = descriptor.expectedTopicCount) := by
  have full (bindable : descriptor.Bindable) :
      ∃ event, ((compile descriptor).decode .native descriptor.fullRecord).run.run () =
        (.ok event, ()) :=
    exists_event_iff.mpr (EventDescriptor.fullRecord_accepted bindable)
  refine ⟨⟨?_, fun bindable => ⟨_, full bindable⟩⟩, fun bindable => ?_⟩
  · rintro ⟨record, decoded⟩
    exact EventDescriptor.bindable_of_bound (exists_event_iff.mp decoded).bound
  · obtain ⟨event, decoded⟩ := full bindable
    exact ⟨descriptor.fullRecord, event, decoded, (EventCatalog.sized_ownRecord literals).1,
      EventDescriptor.fullPayload_sized names count, EventCatalog.length_topics_ownRecord _⟩

/-! ### Names that come twice -/

/-- Two topic fields and a payload field of one name. -/
private def sharedNames : EventDescriptor where
  name := "linked"
  prefixTopics := ["link"]
  fields := [⟨"id", .u32, .topicList, none⟩, ⟨"id", .u32, .topicList, none⟩,
    ⟨"id", .u32, .payload, none⟩]
  payloadShape := .map

/-- Two payload fields of one name. -/
private def doubledNames (shape : PayloadShape) : EventDescriptor where
  name := "pair"
  prefixTopics := []
  fields := [⟨"id", .u32, .payload, none⟩, ⟨"id", .u32, .payload, none⟩]
  payloadShape := shape

/-- A name that topics share with the payload does no harm, and one that comes twice in the payload
rules out a map, but not a vector. -/
theorem exists_decoded_iff_shared :
    (∀ literal ∈ sharedNames.prefixTopics,
        (Utf8.encode literal).length ≤ Xdr.Reader.unbounded) ∧
      (∀ field ∈ sharedNames.payloadFields,
        (Utf8.encode field.name).length ≤ Xdr.Reader.unbounded) ∧
      sharedNames.payloadFields.length ≤ Xdr.Reader.unbounded ∧
      (∃ record event, ((compile sharedNames).decode .native record).run.run () =
        (.ok event, ())) ∧
      (∃ record event, ((compile (doubledNames .vector)).decode .native record).run.run () =
        (.ok event, ())) ∧
      ¬ ∃ record event, ((compile (doubledNames .map)).decode .native record).run.run () =
        (.ok event, ()) := by
  have literals : ∀ literal ∈ sharedNames.prefixTopics,
      (Utf8.encode literal).length ≤ Xdr.Reader.unbounded := by decide
  have names : ∀ field ∈ sharedNames.payloadFields,
      (Utf8.encode field.name).length ≤ Xdr.Reader.unbounded := by decide
  have doubled (shape : PayloadShape) : ∀ field ∈ (doubledNames shape).payloadFields,
      (Utf8.encode field.name).length ≤ Xdr.Reader.unbounded := by
    cases shape <;> decide
  refine ⟨literals, names, by decide, ?_, ?_, ?_⟩
  · exact (exists_decoded_iff literals names (by decide)).1.mpr (by decide)
  · exact (exists_decoded_iff (by decide) (doubled .vector) (by decide)).1.mpr (by decide)
  · rw [(exists_decoded_iff (by decide) (doubled .map) (by decide)).1]
    decide

end EventDecoder

end ContractEvents
