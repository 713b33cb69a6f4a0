/-
Module: ContractEvents.Proofs.NameLookup
Purpose: Every access to a field by its name finds what a plain search through the fields finds.
Main exports: FieldPlace, FieldPlace.search?, FieldPlace.read, DecodedEvent.LooksUp,
  EventDecoder.lookups_agree
-/
import ContractEvents.Proofs.ReadingSessions

namespace ContractEvents

/-!
A name is looked up in an index, which leads to a slot, and names, native types and slots are kept
in lists of their own.  Against this stands one search through the declared fields and the slots
side by side, which stops at the first field of the name.  All accesses agree with it on every event
that can be reached, also where names are repeated.
-/

/-- A field at its place: how many fields are declared in front of it, how it is declared, and what
an event holds for it. -/
structure FieldPlace where
  position : Nat
  declared : EventField
  held : FieldSlot

namespace FieldPlace

/-- The first field of a name, in fields and slots that stand side by side from a position on. -/
def search? (name : String) (position : Nat) : List EventField → List FieldSlot → Option FieldPlace
  | declared :: fields, held :: slots =>
      if declared.name = name then some ⟨position, declared, held⟩
      else search? name (position + 1) fields slots
  | _, _ => none

variable {name : String}

theorem search?_eq_none {fields : List EventField}
    (undeclared : ∀ declared ∈ fields, declared.name ≠ name) (position : Nat)
    (slots : List FieldSlot) : search? name position fields slots = none := by
  induction fields generalizing position slots with
  | nil => rfl
  | cons declared fields inductionHypothesis =>
      obtain ⟨other, undeclaredBehind⟩ := List.forall_mem_cons.mp undeclared
      cases slots with
      | nil => rfl
      | cons held slots => rw [search?, if_neg other, inductionHypothesis undeclaredBehind]

/-- A search passes by the fields in front that have other names. -/
theorem search?_of_first {fields : List EventField} {slots : List FieldSlot} {slot : Nat}
    {declared : EventField} {held : FieldSlot} (declaredAt : fields[slot]? = some declared)
    (heldAt : slots[slot]? = some held) (named : declared.name = name)
    (first : ∀ earlier ∈ fields.take slot, earlier.name ≠ name) (position : Nat) :
    search? name position fields slots = some ⟨position + slot, declared, held⟩ := by
  induction slot generalizing fields slots position with
  | zero =>
      cases fields with
      | nil => cases declaredAt
      | cons field fields =>
          cases slots with
          | nil => cases heldAt
          | cons front slots =>
              obtain rfl : field = declared := by simpa using declaredAt
              obtain rfl : front = held := by simpa using heldAt
              rw [search?, if_pos named]
              rfl
  | succ slot inductionHypothesis =>
      cases fields with
      | nil => cases declaredAt
      | cons field fields =>
          cases slots with
          | nil => cases heldAt
          | cons front slots =>
              rw [List.take_succ_cons, List.forall_mem_cons] at first
              rw [search?, if_neg first.1,
                inductionHypothesis (by simpa using declaredAt) (by simpa using heldAt) first.2,
                Nat.add_assoc, Nat.add_comm 1 slot]

variable {σ : Type}

/-- What reading a field does at its place: a value that is kept is given, and otherwise the value
decoder is asked once, about the raw value that is held there. -/
def read (place : FieldPlace) (name : String) (decoder : ValueDecoder σ) (event : DecodedEvent)
    (state : σ) : (Except FieldError NativeValue × DecodedEvent) × σ :=
  match place.held.cached with
  | some value => ((.ok value, event), state)
  | none =>
      match (decoder place.held.raw).run state with
      | (.error fault, next) => ((.error (.decode name fault), event), next)
      | (.ok value, next) =>
          if (mapType place.declared.type).accepts value then
            ((.ok value, event.store place.position value), next)
          else
            ((.error (.typeMismatch name (mapType place.declared.type) value.kind), event), next)

end FieldPlace

namespace DecodedEvent

variable {σ : Type} {descriptor : EventDescriptor} {event : DecodedEvent} {name : String}

/-- What the plain search finds in an event of a descriptor. -/
def place? (descriptor : EventDescriptor) (event : DecodedEvent) (name : String) :
    Option FieldPlace :=
  FieldPlace.search? name 0 descriptor.fields event.slots

/-- An event has a place for a name and the index leads to it, or the name is declared nowhere and
the index leads nowhere. -/
theorem LaidOut.place_or_absent (laidOut : event.LaidOut descriptor) (name : String) :
    (∃ place, event.place? descriptor name = some place ∧
        descriptor.fields.findIdx? (·.name == name) = some place.position ∧
        descriptor.field? name = some place.declared ∧
        event.FieldAt name place.position place.held (mapType place.declared.type)) ∨
      event.place? descriptor name = none ∧
        descriptor.fields.findIdx? (·.name == name) = none ∧ descriptor.field? name = none ∧
        event.layout.slot? name = none := by
  have index := laidOut.slot?_eq name
  cases led : event.layout.slot? name with
  | none =>
      rw [led] at index
      have undeclared : ∀ declared ∈ descriptor.fields, declared.name ≠ name := by
        intro declared member
        simpa using List.findIdx?_eq_none_iff.mp index.symm declared member
      refine .inr ⟨FieldPlace.search?_eq_none undeclared 0 event.slots, index.symm, ?_, rfl⟩
      rw [EventDescriptor.field?, List.find?_eq_none]
      simpa using undeclared
  | some slot =>
      obtain ⟨declared, held, declaredAt, named, found, fieldAt⟩ := laidOut.exists_declared led
      rw [led] at index
      -- The index leads to the first field of the name, which is where the search stops.
      obtain ⟨inside, -, before⟩ := List.findIdx?_eq_some_iff_getElem.mp index.symm
      have first : ∀ earlier ∈ descriptor.fields.take slot, earlier.name ≠ name := by
        intro earlier member
        obtain ⟨position, less, rfl⟩ := List.mem_take_iff_getElem.mp member
        simpa using before position (by omega)
      refine .inl ⟨⟨slot, declared, held⟩, ?_, index.symm, found, fieldAt⟩
      rw [place?, FieldPlace.search?_of_first declaredAt fieldAt.slotAt named first, Nat.zero_add]

/-- Reading a field by its name reads it at its place. -/
theorem get_of_fieldAt {place : FieldPlace} (decoder : ValueDecoder σ)
    (fieldAt : event.FieldAt name place.position place.held (mapType place.declared.type))
    (state : σ) : (get decoder name).outcome event state = place.read name decoder event state := by
  rw [FieldPlace.read]
  cases cached : place.held.cached with
  | some value => exact get_of_cached fieldAt cached state
  | none =>
      rcases answered : (decoder place.held.raw).run state with ⟨fault | value, next⟩
      · simp only [get_of_refused fieldAt cached answered]
      · cases accepted : (mapType place.declared.type).accepts value with
        | true => simp [get_of_fresh fieldAt cached answered accepted, accepted]
        | false => simp [get_of_mismatch fieldAt cached answered accepted, accepted]

/-- A reading at a place does not find the name unknown. -/
theorem read_ne_unknown (place : FieldPlace) (decoder : ValueDecoder σ) (state : σ)
    (owner field : String) :
    (place.read name decoder event state).1.1 ≠ .error (.unknownField owner field) := by
  rw [FieldPlace.read]
  cases place.held.cached with
  | some value => simp
  | none =>
      rcases (decoder place.held.raw).run state with ⟨fault | value, next⟩
      · simp
      · cases accepted : (mapType place.declared.type).accepts value <;> simp [accepted]

/-- All accesses to an event by a name agree with the plain search. -/
structure LooksUp (descriptor : EventDescriptor) (decoder : ValueDecoder σ) (event : DecodedEvent)
    (name : String) : Prop where
  /-- The search finds the first declared field of the name, or none if no field has it. -/
  declared : (event.place? descriptor name).map (·.declared) = descriptor.field? name
  position : (event.place? descriptor name).map (·.position) =
    descriptor.fields.findIdx? (·.name == name)
  nativeType : event.nativeType? name =
    (event.place? descriptor name).map fun place => mapType place.declared.type
  raw : event.raw? name = (event.place? descriptor name).map (·.held.raw)
  materialized : event.isMaterialized name =
    (event.place? descriptor name).any (·.held.cached.isSome)
  get : ∀ state, (DecodedEvent.get decoder name).outcome event state =
    (event.place? descriptor name).elim
      ((.error (.unknownField descriptor.name name), event), state)
      (·.read name decoder event state)
  /-- A declared field has a raw value, and is never reported as unknown. -/
  present : (event.raw? name).isSome = true ↔ (descriptor.field? name).isSome = true
  unknown : ∀ state,
    (∃ owner field, ((DecodedEvent.get decoder name).outcome event state).1.1 =
        .error (.unknownField owner field)) ↔
      descriptor.field? name = none

theorem LaidOut.looksUp (laidOut : event.LaidOut descriptor) (decoder : ValueDecoder σ)
    (name : String) : event.LooksUp descriptor decoder name := by
  have ofDescriptor : event.nativeType? name =
      (descriptor.field? name).map fun declared => mapType declared.type := by
    rw [nativeType?, laidOut.layout, ← EventDecoder.nativeType?, EventDecoder.nativeType?_compile]
  rcases laidOut.place_or_absent name with
    ⟨place, searched, indexed, found, fieldAt⟩ | ⟨absent, unindexed, undeclared, unled⟩
  · have read := get_of_fieldAt decoder fieldAt
    have raw := raw?_of_fieldAt fieldAt
    refine ⟨?_, ?_, ?_, ?_, ?_, ?_, ?_, ?_⟩
    · rw [searched, found, Option.map_some]
    · rw [searched, indexed, Option.map_some]
    · rw [ofDescriptor, searched, found, Option.map_some, Option.map_some]
    · rw [searched, raw, Option.map_some]
    · rw [searched, isMaterialized_eq, cached?_of_fieldAt fieldAt, Option.any_some]
    · intro state
      rw [searched, read, Option.elim_some]
    · simp [raw, found]
    · intro state
      rw [read, found]
      refine iff_of_false ?_ (Option.some_ne_none _)
      rintro ⟨owner, field, reported⟩
      exact read_ne_unknown place decoder state owner field reported
  · have read : ∀ state, (DecodedEvent.get decoder name).outcome event state =
        ((.error (.unknownField event.name name), event), state) := get_of_unled unled
    have named : event.name = descriptor.name := by
      rw [DecodedEvent.name, laidOut.layout]
      rfl
    have unbound : event.slot? name = none := by rw [slot?, unled, Option.bind_none]
    refine ⟨?_, ?_, ?_, ?_, ?_, ?_, ?_, ?_⟩
    · rw [absent, undeclared, Option.map_none]
    · rw [absent, unindexed, Option.map_none]
    · rw [ofDescriptor, absent, undeclared, Option.map_none, Option.map_none]
    · rw [raw?, unbound, absent, Option.map_none, Option.map_none]
    · rw [isMaterialized, unbound, absent, Option.any_none, Option.any_none]
    · intro state
      rw [read, absent, named, Option.elim_none]
    · simp [raw?, unbound, undeclared]
    · intro state
      rw [read]
      exact iff_of_true ⟨_, _, rfl⟩ undeclared

end DecodedEvent

namespace EventDecoder

/-- Every access by a name agrees with the plain search through the declared fields: those of a
decoder, and those of an event that it decoded, after any calls on the event. -/
theorem lookups_agree (descriptor : EventDescriptor) (name : String) :
    (compile descriptor).nativeType? name =
        (descriptor.field? name).map (fun declared => mapType declared.type) ∧
      (compile descriptor).fieldTypes = descriptor.typeTable ∧
      ∀ {σ τ : Type} (values : ValueDecoder σ) (record : EventRecord) (before after : σ)
        (event : DecodedEvent),
        ((compile descriptor).decode values record).run.run before = (.ok event, after) →
          ∀ (reader : ValueDecoder τ) (state : τ) (calls : List FieldCall),
            ((Session.start event state).run reader calls).event.LooksUp descriptor reader name := by
  refine ⟨nativeType?_compile descriptor name, ?_, ?_⟩
  · rw [fieldTypes, compile, EventDescriptor.typeTable, List.zip_map']
  · intro σ τ values record before after event decoded reader state calls
    have started := Session.consistent_of_decode decoded state
    exact (Session.consistent_run started calls).laidOut.looksUp reader name

private def renewal : EventDescriptor where
  name := "renewal"
  prefixTopics := []
  fields := [⟨"to", .u32, .topicList, none⟩, ⟨"to", .string, .payload, none⟩]
  payloadShape := .map

private def renewalRecord : EventRecord where
  topics := [.u32 3]
  payload := .map (some [(.symbol [0x74, 0x6F], .string [0x6D, 0x61, 0x79])])

private theorem renewal_decoded :
    ((compile renewal).decode .scripted renewalRecord).run.run ⟨[], [], 0⟩ =
      (.ok (.ofRaw (compile renewal).layout [.u32 3, .string [0x6D, 0x61, 0x79]]),
        ⟨[], [], 1⟩) := rfl

/-- A name that is declared among the topics and again in the payload leads to the topic, whatever
the payload holds for it. -/
theorem lookups_agree_repeated :
    ∃ event after,
      ((compile renewal).decode .scripted renewalRecord).run.run ⟨[], [], 0⟩ = (.ok event, after) ∧
        ∃ reached, (Session.start event after).run .scripted [.get "to"] = reached ∧
          reached.event.LooksUp renewal .scripted "to" ∧
          (reached.event.place? renewal "to").map (·.position) = some 0 ∧
          reached.event.nativeType? "to" = some .int32 ∧
          reached.event.raw? "to" = some (.u32 3) ∧ reached.event.isMaterialized "to" = true :=
  ⟨_, _, renewal_decoded, _, rfl,
    (lookups_agree renewal "to").2.2 .scripted renewalRecord _ _ _ renewal_decoded .scripted _ _,
    rfl, rfl, rfl, rfl⟩

end EventDecoder

end ContractEvents
