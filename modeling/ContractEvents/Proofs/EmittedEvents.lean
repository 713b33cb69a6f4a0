/-
Module: ContractEvents.Proofs.EmittedEvents
Purpose: What a contract emits under a declared event is what a client reads from the record.
Main exports: SpecEvent.Unambiguous, SpecEvent.Emits, SpecEvent.accepted_of_emits,
  EventCatalog.decode_emitted
-/
import ContractEvents.Proofs.BindingExactness
import ContractEvents.Proofs.CatalogRouting
import ContractEvents.Proofs.FieldReading
import ContractEvents.Proofs.InterfaceText
import ContractEvents.Proofs.TypeConformance
import Mathlib.Data.List.Nodup

namespace ContractEvents

/-!
A contract that emits an event gives every declared parameter a value of its type and lays the
values out in topics and data.  The client knows the interface only: it folds the types, routes the
record, checks the prefix, binds the values by name or position and decodes them when they are read.
At the end it has, under each name, the native form of the value that the parameter was given.
-/

/-- The values that a contract gives to the parameters of an event. -/
abbrev Emission := List (SpecParam × Value)

/-- The parameters at a location and their values. -/
def Emission.located (held : Emission) (location : SpecLocation) : Emission :=
  held.filter fun entry => entry.1.location = location

/-- Data in a format carries the values of the data parameters: as a map keyed by their names as
symbols, in any order; as a vector in declaration order; or as the value of the only one, which is
void if there is none. -/
def SpecDataFormat.Carries : SpecDataFormat → Emission → Value → Prop
  | .map, held, data => ∃ entries, data = .map entries ∧
      (entries.getD []).Perm (held.map fun entry => (.symbol entry.1.name, entry.2))
  | .vec, held, data => ∃ items, data = .vec items ∧ items.getD [] = held.map (·.2)
  | .singleValue, held, data => data = (held.map (·.2)).headD .void

namespace SpecEvent

/-- The names of an event are plain and tell its parameters apart, and data without names or
positions is that of one parameter at most. -/
structure Unambiguous (event : SpecEvent) : Prop where
  prefixPlain : ∀ topic ∈ event.prefixTopics, topic.Plain
  namesPlain : ∀ param ∈ event.params, param.name.Plain
  distinct : (event.params.map (·.name)).Nodup
  single : event.dataFormat = .singleValue → event.params.countP (·.location = .data) ≤ 1

/-- A record is what a contract emits when it gives the parameters of an event values of their
types: the prefix as symbols and the topic parameters behind it, and the data. -/
structure Emits (event : SpecEvent) (held : Emission) (record : EventRecord) : Prop where
  params : held.map (·.1) = event.params
  typed : ∀ entry ∈ held, entry.1.type.Holds entry.2
  topics : record.topics =
    event.prefixTopics.map .symbol ++ (held.located .topicList).map (·.2)
  data : event.dataFormat.Carries (held.located .data) record.payload

variable {event : SpecEvent} {held : Emission} {record : EventRecord}

/-! ### The descriptor of an emitted event -/

theorem countP_ofSpec (location : SpecLocation) (params : List SpecParam) :
    (params.map EventField.ofSpec).countP (·.location = FieldLocation.ofSpec location) =
      params.countP (·.location = location) := by
  rw [List.countP_map]
  congr 1
  funext param
  cases located : param.location <;> cases location <;>
    simp [EventField.ofSpec, FieldLocation.ofSpec, located]

theorem Emits.fieldAt (emits : event.Emits held record) {slot : Nat} {param : SpecParam}
    {value : Value} (heldAt : held[slot]? = some (param, value)) :
    (EventDescriptor.ofSpec event).fields[slot]? = some (EventField.ofSpec param) := by
  simp [EventDescriptor.ofSpec, ← emits.params, heldAt]

/-- The rank of a parameter is its position among the emitted ones of its location. -/
theorem Emits.rank_eq (emits : event.Emits held record) (location : SpecLocation) (slot : Nat) :
    (EventDescriptor.ofSpec event).rank (FieldLocation.ofSpec location) slot =
      (held.take slot).countP fun entry => entry.1.location = location := by
  rw [EventDescriptor.rank, EventDescriptor.ofSpec, ← List.map_take, countP_ofSpec, ← emits.params,
    ← List.map_take, List.countP_map]
  rfl

theorem Emits.located_at_rank (emits : event.Emits held record) {slot : Nat} {param : SpecParam}
    {value : Value} (heldAt : held[slot]? = some (param, value)) :
    ((held.located param.location).map (·.2))[(EventDescriptor.ofSpec event).rank
      (FieldLocation.ofSpec param.location) slot]? = some value := by
  have kept := getElem?_filter_countP (fun entry => entry.1.location = param.location) heldAt
    (by simp)
  rw [emits.rank_eq, List.getElem?_map, Emission.located, kept]
  rfl

theorem Emits.length_located (emits : event.Emits held record) (location : SpecLocation) :
    (held.located location).length = event.params.countP (·.location = location) := by
  rw [Emission.located, ← List.countP_eq_length_filter, ← emits.params, List.countP_map]
  rfl

theorem Emits.expectedTopicCount_eq (emits : event.Emits held record) :
    (EventDescriptor.ofSpec event).expectedTopicCount = record.topics.length := by
  have topics : (EventDescriptor.ofSpec event).topicFields.length =
      (held.located .topicList).length := by
    rw [EventDescriptor.topicFields, ← List.countP_eq_length_filter, emits.length_located]
    exact countP_ofSpec .topicList event.params
  rw [EventDescriptor.expectedTopicCount, topics, emits.topics]
  simp [EventDescriptor.ofSpec]

/-! ### The stages that an emitted record passes -/

/-- The symbols in front of the topics are answered by the prefix literals. -/
theorem Emits.fits (unambiguous : event.Unambiguous) (emits : event.Emits held record) :
    (EventDescriptor.ofSpec event).Matches Value.decode record where
  enough := Nat.le_of_eq emits.expectedTopicCount_eq
  agrees := by
    intro i literal topic literalAt topicAt
    have spelledAt : (event.prefixTopics.map Escaped.encode)[i]? = some literal := literalAt
    rw [List.getElem?_map, Option.map_eq_some_iff] at spelledAt
    obtain ⟨bs, bytesAt, rfl⟩ := spelledAt
    obtain ⟨inside, -⟩ := List.getElem?_eq_some_iff.mp bytesAt
    rw [emits.topics, List.getElem?_append_left (by simpa using inside), List.getElem?_map,
      bytesAt] at topicAt
    obtain rfl : Value.symbol bs = topic := by simpa using topicAt
    have plain := unambiguous.prefixPlain bs (List.mem_of_getElem? bytesAt)
    rw [Value.decode_symbol_of_plain plain, Escaped.encode_of_plain plain]

theorem Emits.shaped (emits : event.Emits held record) :
    ¬ (EventDescriptor.ofSpec event).Misshapen record.payload := by
  have carried := emits.data
  rw [← EventDecoder.hasShape_eq_false_iff, Bool.not_eq_false, EventDescriptor.ofSpec]
  cases format : event.dataFormat with
  | map =>
      rw [format] at carried
      obtain ⟨entries, payload, -⟩ := carried
      rw [payload]
      rfl
  | vec =>
      rw [format] at carried
      obtain ⟨items, payload, -⟩ := carried
      rw [payload]
      rfl
  | singleValue => rfl

/-! ### The values of the fields -/

/-- A plain symbol stands for the name that it spells. -/
theorem name?_symbol {bs : Bytes} (plain : bs.Plain) :
    Answers.name? Value.decode (.symbol bs) = some (Escaped.encode bs) := by
  rw [Answers.name?, Value.decode_symbol_of_plain plain, Escaped.encode_of_plain plain]
  rfl

theorem Emits.distinct_names (unambiguous : event.Unambiguous)
    (emits : event.Emits held record) : (held.map fun entry => entry.1.name).Nodup := by
  have names := unambiguous.distinct
  rwa [← emits.params, List.map_map] at names

/-- No parameter in front of another one has its name, in the spelling of the fields either. -/
theorem Emits.first_of_name (unambiguous : event.Unambiguous) (emits : event.Emits held record)
    {slot : Nat} {param : SpecParam} {value : Value}
    (heldAt : held[slot]? = some (param, value)) :
    ∀ earlier ∈ (EventDescriptor.ofSpec event).fields.take slot,
      earlier.name ≠ (EventField.ofSpec param).name := by
  intro earlier member same
  rw [EventDescriptor.ofSpec, ← emits.params, ← List.map_take, ← List.map_take] at member
  obtain ⟨_, inParams, rfl⟩ := List.mem_map.mp member
  obtain ⟨entry, inFront, rfl⟩ := List.mem_map.mp inParams
  have distinct := emits.distinct_names unambiguous
  rw [eq_take_append_cons heldAt, List.map_append, List.nodup_append] at distinct
  exact distinct.2.2 _ (List.mem_map_of_mem inFront) _ (List.mem_map_of_mem List.mem_cons_self)
    (Escaped.encode_injective same)

/-- The entry of a data parameter is found under its name, wherever the map has it. -/
theorem Emits.valueNamed?_eq (unambiguous : event.Unambiguous) (emits : event.Emits held record)
    {param : SpecParam} {value : Value} (member : (param, value) ∈ held.located .data)
    {entries : List (Value × Value)}
    (keyed : entries.Perm ((held.located .data).map fun entry => (.symbol entry.1.name, entry.2))) :
    Answers.valueNamed? Value.decode (EventField.ofSpec param).name entries = some value := by
  have plain {entry : SpecParam × Value} (inHeld : entry ∈ held) : entry.1.name.Plain :=
    unambiguous.namesPlain entry.1 (emits.params ▸ List.mem_map_of_mem inHeld)
  have inHeld := (List.mem_filter.mp member).1
  refine Answers.valueNamed?_of_unique _ (keyed.mem_iff.mpr (List.mem_map_of_mem member))
    (name?_symbol (plain inHeld)) ?_
  intro entry inEntries named
  obtain ⟨other, otherMember, rfl⟩ := List.mem_map.mp (keyed.mem_iff.mp inEntries)
  have otherHeld := (List.mem_filter.mp otherMember).1
  rw [name?_symbol (plain otherHeld), Option.some.injEq] at named
  rw [List.inj_on_of_nodup_map (emits.distinct_names unambiguous) otherHeld inHeld
    (Escaped.encode_injective named)]

theorem Emits.fieldValue?_topic (emits : event.Emits held record) {slot : Nat} {param : SpecParam}
    {value : Value} (heldAt : held[slot]? = some (param, value))
    (location : param.location = .topicList) :
    (EventDescriptor.ofSpec event).fieldValue? Value.decode record slot (EventField.ofSpec param) =
      some value := by
  have ranked := emits.located_at_rank heldAt
  have located : (EventField.ofSpec param).location = .topicList := by
    rw [EventField.ofSpec, location]
    rfl
  have shifted : (EventDescriptor.ofSpec event).prefixTopics.length =
      (event.prefixTopics.map Value.symbol).length := by
    simp [EventDescriptor.ofSpec]
  rw [location] at ranked
  rw [EventDescriptor.fieldValue?, located, emits.topics, shifted,
    List.getElem?_append_right (Nat.le_add_right ..), Nat.add_sub_cancel_left]
  exact ranked

theorem Emits.fieldValue?_data (unambiguous : event.Unambiguous)
    (emits : event.Emits held record) {slot : Nat} {param : SpecParam} {value : Value}
    (heldAt : held[slot]? = some (param, value)) (location : param.location = .data) :
    (EventDescriptor.ofSpec event).fieldValue? Value.decode record slot (EventField.ofSpec param) =
      some value := by
  have ranked := emits.located_at_rank heldAt
  have carried := emits.data
  have located : (EventField.ofSpec param).location = .payload := by
    rw [EventField.ofSpec, location]
    rfl
  have shape : (EventDescriptor.ofSpec event).payloadShape =
      PayloadShape.ofSpec event.dataFormat := rfl
  rw [location] at ranked
  rw [EventDescriptor.fieldValue?, located, shape]
  cases format : event.dataFormat with
  | map =>
      rw [format] at carried
      obtain ⟨entries, payload, keyed⟩ := carried
      have first : (EventDescriptor.ofSpec event).FirstOfName slot (EventField.ofSpec param).name :=
        fun earlier member _ => emits.first_of_name unambiguous heldAt earlier member
      have member : (param, value) ∈ held.located .data :=
        List.mem_filter.mpr ⟨List.mem_of_getElem? heldAt, by simpa using location⟩
      simp only [PayloadShape.ofSpec, if_pos first, payload,
        EventDecoder.entriesOf_map]
      exact emits.valueNamed?_eq unambiguous member keyed
  | vec =>
      rw [format] at carried
      obtain ⟨items, payload, inOrder⟩ := carried
      simp only [PayloadShape.ofSpec, payload, EventDecoder.itemsOf_vec, inOrder]
      exact ranked
  | singleValue =>
      rw [format] at carried
      have one : ((held.located .data).map (·.2)).length ≤ 1 := by
        rw [List.length_map, emits.length_located]
        exact unambiguous.single format
      obtain ⟨inside, -⟩ := List.getElem?_eq_some_iff.mp ranked
      have whole : (EventDescriptor.ofSpec event).rank .payload slot = 0 :=
        Nat.lt_one_iff.mp (Nat.lt_of_lt_of_le inside one)
      have payload : record.payload = value := by
        rw [FieldLocation.ofSpec, whole, ← List.head?_eq_getElem?] at ranked
        rw [carried, List.headD_eq_head?_getD, ranked]
        rfl
      simp only [PayloadShape.ofSpec, whole, payload]
      rfl

/-- Every field is bound to the value that its parameter was given. -/
theorem Emits.bindings_eq (unambiguous : event.Unambiguous) (emits : event.Emits held record) :
    (EventDescriptor.ofSpec event).bindings Value.decode record = held.map (some ·.2) := by
  apply List.ext_getElem?
  intro slot
  cases heldAt : held[slot]? with
  | none =>
      have beyond := List.getElem?_eq_none_iff.mp heldAt
      rw [List.getElem?_map, heldAt, List.getElem?_eq_none]
      · rfl
      · simpa [EventDescriptor.ofSpec, ← emits.params] using beyond
  | some entry =>
      obtain ⟨param, value⟩ := entry
      rw [EventDescriptor.getElem?_bindings (emits.fieldAt heldAt), List.getElem?_map, heldAt]
      cases location : param.location with
      | topicList => rw [emits.fieldValue?_topic heldAt location, Option.map_some]
      | data => rw [emits.fieldValue?_data unambiguous heldAt location, Option.map_some]

/-- No stage rejects what a contract emits. -/
theorem Emits.accepted (unambiguous : event.Unambiguous) (emits : event.Emits held record) :
    (EventDescriptor.ofSpec event).Accepted Value.decode record where
  fits := emits.fits unambiguous
  shaped := emits.shaped
  bound := by
    rintro ⟨slot, field, fieldAt, -, free⟩
    have bound : ((EventDescriptor.ofSpec event).bindings Value.decode record)[slot]? = some none :=
      free ▸ EventDescriptor.getElem?_bindings fieldAt
    rw [emits.bindings_eq unambiguous, List.getElem?_map, Option.map_eq_some_iff] at bound
    obtain ⟨entry, -, impossible⟩ := bound
    cases impossible

/-! ### The decoded event -/

/-- The event that holds the emitted values, none of them read yet. -/
def received (event : SpecEvent) (held : Emission) : DecodedEvent :=
  DecodedEvent.ofRaw (EventDecoder.compile (EventDescriptor.ofSpec event)).layout (held.map (·.2))

theorem Emits.decode_settled {σ : Type} (unambiguous : event.Unambiguous)
    (emits : event.Emits held record) :
    (EventDecoder.compile (EventDescriptor.ofSpec event)).decode (.ofFunction Value.decode) record =
      (settled (.ok (event.received held)) : Decoding σ DecodedEvent) := by
  rw [EventDecoder.decode_of_accepted (emits.accepted unambiguous), emits.bindings_eq unambiguous,
    List.filterMap_map, received]
  simp

/-- A parameter's name leads to the value that the parameter was given. -/
theorem Emits.raw?_received (unambiguous : event.Unambiguous) (emits : event.Emits held record)
    {param : SpecParam} {value : Value} (member : (param, value) ∈ held) :
    (event.received held).raw? (Escaped.encode param.name) = some value := by
  obtain ⟨slot, heldAt⟩ := List.mem_iff_getElem?.mp member
  have led : (event.received held).layout.slot? (Escaped.encode param.name) = some slot :=
    EventDecoder.lookup_index_of_first (emits.fieldAt heldAt)
      (emits.first_of_name unambiguous heldAt)
  rw [DecodedEvent.raw?_eq_getElem?, led]
  simp [received, DecodedEvent.ofRaw, heldAt]

/-- Every emitted value is decoded to one that the native type of its field accepts. -/
theorem Emits.conforming_received (emits : event.Emits held record) :
    (event.received held).Conforming Value.decode := by
  intro slot kept keptAt
  obtain ⟨⟨param, value⟩, heldAt, rfl⟩ : ∃ entry, held[slot]? = some entry ∧
      (⟨entry.2, none⟩ : FieldSlot) = kept := by
    simpa [received, DecodedEvent.ofRaw] using keptAt
  have typed := emits.typed _ (List.mem_of_getElem? heldAt)
  obtain ⟨native, decoded, accepted⟩ :=
    Value.conforms_of_fits _ (WireType.fits_of_holds param.type typed)
  refine ⟨mapType (WireType.ofSpec param.type), native, ?_, decoded, accepted, ?_⟩
  · have typeAt := congrArg (Option.map fun field => mapType field.type) (emits.fieldAt heldAt)
    rw [← List.getElem?_map] at typeAt
    exact typeAt
  · rintro _ ⟨⟩

end SpecEvent

/-! ### The catalog of a listing -/

theorem mem_extractEvents {entries : List SpecEntry} {descriptor : EventDescriptor} :
    descriptor ∈ extractEvents entries ↔
      ∃ event, SpecEntry.event event ∈ entries ∧ EventDescriptor.ofSpec event = descriptor := by
  rw [extractEvents, List.mem_filterMap]
  constructor
  · rintro ⟨entry, member, extracted⟩
    cases entry with
    | event event => exact ⟨event, member, Option.some.inj extracted⟩
    | _ => cases extracted
  · rintro ⟨event, member, rfl⟩
    exact ⟨.event event, member, rfl⟩

namespace EventCatalog

variable {σ : Type} {event : SpecEvent} {held : Emission} {record : EventRecord}

/-- A record that a contract emits is routed to the emitted event, unless another event continues
its prefix. -/
theorem longestPrefix?_of_emits {before after : List SpecEntry} (unambiguous : event.Unambiguous)
    (emits : event.Emits held record)
    (unextended : ∀ other, SpecEntry.event other ∈ before ++ after →
      ¬ event.prefixTopics <+: other.prefixTopics) :
    longestPrefix? ((matched Value.decode (extractEvents (before ++ .event event :: after))
      record).map EventDecoder.compile) =
        some (EventDecoder.compile (EventDescriptor.ofSpec event)) := by
  have declared : EventDescriptor.ofSpec event ∈
      extractEvents (before ++ .event event :: after) :=
    mem_extractEvents.mpr ⟨event, by simp, rfl⟩
  have fits := emits.fits unambiguous
  have probed : (EventDescriptor.ofSpec event).probe Value.decode record = true :=
    (EventDecoder.probe_eq_true_iff _).mpr fits
  cases chosen : longestPrefix? ((matched Value.decode
      (extractEvents (before ++ .event event :: after)) record).map EventDecoder.compile) with
  | none =>
      have missed := matched_eq_nil_iff.mp
        (List.map_eq_nil_iff.mp (longestPrefix?_eq_none_iff.mp chosen)) _ declared
      rw [probed] at missed
      cases missed
  | some winner =>
      obtain ⟨front, descriptor, back, rfl, routed⟩ := exists_routed chosen
      have member : descriptor ∈ extractEvents (before ++ .event event :: after) := by
        rw [routed.place]
        simp
      obtain ⟨other, inEntries, rfl⟩ := mem_extractEvents.mp member
      have place : other = event ∨ SpecEntry.event other ∈ before ++ after := by
        simp only [List.mem_append, List.mem_cons, SpecEntry.event.injEq] at inEntries ⊢
        tauto
      rcases place with rfl | elsewhere
      · rfl
      · -- Both events match, so the winner's prefix, being the longer, continues the emitted one's.
        have continued := prefix_of_matches fits
          ((EventDecoder.probe_eq_true_iff _).mp routed.fits)
          (routed.longest _ declared probed)
        have injective : Function.Injective Escaped.encode := fun _ _ same =>
          Escaped.encode_injective same
        exact absurd ((List.prefix_map_iff_of_injective injective).mp continued)
          (unextended other elsewhere)

/-- What a contract emits under a declared event is what a client reads.  The catalog of the listing
decodes the record as that event, and reads of its parameters, however many and in whichever order,
give the native forms of the values that the parameters were given. -/
theorem decode_emitted {listing : Listing} {before after : List SpecEntry}
    (declared : listing.entries = before ++ .event event :: after)
    (unambiguous : event.Unambiguous)
    (unextended : ∀ other, SpecEntry.event other ∈ before ++ after →
      ¬ event.prefixTopics <+: other.prefixTopics)
    (emits : event.Emits held record) (state : σ) :
    ∃ decoded,
      ((ofListing listing).decode .native record).run.run state = (.ok decoded, state) ∧
        decoded.name = Escaped.encode event.name ∧
        (∀ entry ∈ held, decoded.raw? entry.1.name.asciiText = some entry.2) ∧
        ∀ asked : Emission, (∀ ask ∈ asked, ask ∈ held) → ∃ natives read,
          FieldReader.outcome (asked.mapM fun ask => DecodedEvent.get .native ask.1.name.asciiText)
              decoded state = ((.ok natives, read), state) ∧
            natives.map .ok = asked.map fun ask => ask.2.decode := by
  have chosen := longestPrefix?_of_emits unambiguous emits unextended
  have raw : ∀ entry ∈ held,
      (event.received held).raw? entry.1.name.asciiText = some entry.2 := by
    intro entry member
    have plain := unambiguous.namesPlain entry.1 (emits.params ▸ List.mem_map_of_mem member)
    rw [← Escaped.encode_of_plain plain]
    exact emits.raw?_received unambiguous member
  refine ⟨event.received held, ?_, rfl, raw, ?_⟩
  · rw [ofListing, declared, ValueDecoder.native,
      decode_of_found chosen (emits.decode_settled unambiguous), run_settled]
    rfl
  · intro asked inHeld
    exact DecodedEvent.mapM_get_of_conforming asked emits.conforming_received
      (fun ask member => raw ask (inHeld ask member)) state

/-! ### An event beside one with a shorter prefix -/

/-- Transfers have two prefix topics and a map of data. -/
private def transfer : SpecEvent where
  doc := []
  lib := []
  name := [0x74, 0x72, 0x61, 0x6E, 0x73, 0x66, 0x65, 0x72]
  prefixTopics := [[0x74, 0x6F, 0x6B, 0x65, 0x6E], [0x6D, 0x6F, 0x76, 0x65]]
  params := [⟨[], [0x74, 0x6F], .address, .topicList⟩,
    ⟨[], [0x66, 0x65, 0x65], .option .i128, .data⟩,
    ⟨[], [0x6D, 0x65, 0x6D, 0x6F], .vec (.tuple [.symbol, .bool]), .data⟩]
  dataFormat := .map

/-- Every transfer has the prefix and the topics of this event too. -/
private def anyToken : SpecEvent where
  doc := []
  lib := []
  name := [0x61, 0x6E, 0x79]
  prefixTopics := [[0x74, 0x6F, 0x6B, 0x65, 0x6E]]
  params := [⟨[], [0x6B, 0x69, 0x6E, 0x64], .symbol, .topicList⟩]
  dataFormat := .singleValue

/-- A memo of one tuple. -/
private def transferMemo : Value :=
  .vec (some [.vec (some [.symbol [0x6F, 0x6B], .bool true])])

private def transferHeld : Emission :=
  [(⟨[], [0x74, 0x6F], .address, .topicList⟩, .address (.contract default)),
    (⟨[], [0x66, 0x65, 0x65], .option .i128, .data⟩, .void),
    (⟨[], [0x6D, 0x65, 0x6D, 0x6F], .vec (.tuple [.symbol, .bool]), .data⟩, transferMemo)]

/-- The entries of the map stand the other way round. -/
private def transferRecord : EventRecord where
  topics := [.symbol [0x74, 0x6F, 0x6B, 0x65, 0x6E], .symbol [0x6D, 0x6F, 0x76, 0x65],
    .address (.contract default)]
  payload := .map (some [(.symbol [0x6D, 0x65, 0x6D, 0x6F], transferMemo),
    (.symbol [0x66, 0x65, 0x65], .void)])

private theorem transfer_unambiguous : transfer.Unambiguous where
  prefixPlain := by decide
  namesPlain := by decide
  distinct := by decide
  single := by
    intro single
    cases single

private theorem transfer_emits : transfer.Emits transferHeld transferRecord where
  params := rfl
  typed := by
    intro entry member
    simp only [transferHeld, List.mem_cons, List.not_mem_nil, or_false] at member
    rcases member with rfl | rfl | rfl
    · rfl
    · exact .inl rfl
    · refine ⟨_, rfl, ?_⟩
      intro item inItems
      obtain rfl : item = .vec (some [.symbol [0x6F, 0x6B], .bool true]) := by
        simpa using inItems
      exact ⟨_, rfl, _, _, rfl, ⟨_, rfl, rfl⟩, _, _, rfl, ⟨true, rfl⟩, rfl⟩
  topics := rfl
  data := ⟨_, rfl, .swap ..⟩

/-- A transfer is not taken for the event with the shorter prefix, and its memo reads twice. -/
theorem decode_emitted_transfer :
    transfer.Unambiguous ∧ transfer.Emits transferHeld transferRecord ∧
      ∃ decoded,
        ((ofListing ⟨[.event anyToken, .event transfer]⟩).decode .native
            transferRecord).run.run () = (.ok decoded, ()) ∧
          decoded.name = "transfer" ∧
          ∃ natives read,
            FieldReader.outcome (["memo", "fee", "memo"].mapM (DecodedEvent.get .native))
                decoded () = ((.ok natives, read), ()) ∧
              natives.map .ok = [transferMemo.decode, .ok .void, transferMemo.decode] := by
  refine ⟨transfer_unambiguous, transfer_emits, ?_⟩
  have declared : (Listing.mk [.event anyToken, .event transfer]).entries =
      [.event anyToken] ++ .event transfer :: [] := rfl
  have unextended : ∀ other, SpecEntry.event other ∈ [.event anyToken] ++ [] →
      ¬ transfer.prefixTopics <+: other.prefixTopics := by
    intro other member
    obtain rfl : other = anyToken := by simpa using member
    decide
  obtain ⟨decoded, ran, name, -, reads⟩ :=
    decode_emitted declared transfer_unambiguous unextended transfer_emits ()
  obtain ⟨natives, read, outcome, values⟩ := reads
    [transferHeld[2], transferHeld[1], transferHeld[2]] (by simp)
  exact ⟨decoded, ran, name, natives, read, outcome, values⟩

end EventCatalog

end ContractEvents
