/-
Module: ContractEvents.Proofs.FieldSlots
Purpose: The slots that a compiled decoder works out for the fields of its descriptor.
Main exports: EventDescriptor.rank, EventDescriptor.Nth, EventDecoder.topicSlots_compile,
  EventDecoder.payloadSlots_compile, EventDecoder.lookup_payloadIndex_compile
-/
import ContractEvents.Decoding.EventDecoder

namespace ContractEvents

/-!
A compiled decoder keeps the slots of the topic fields and of the payload fields in two lists, and
the slot of each name in an index.  Each list enumerates the fields of its location in declaration
order, and an index leads to the first field of a name, so that distinct names lead to distinct
slots.
-/

namespace EventDescriptor

/-- How many of the fields in front of a slot stand at a location. -/
def rank (descriptor : EventDescriptor) (location : FieldLocation) (slot : Nat) : Nat :=
  (descriptor.fields.take slot).countP fun field => field.location = location

/-- The field of a slot is the `j`-th, counted from zero, of those at a location. -/
structure Nth (descriptor : EventDescriptor) (location : FieldLocation) (j slot : Nat)
    (field : EventField) : Prop where
  fieldAt : descriptor.fields[slot]? = some field
  located : field.location = location
  counted : descriptor.rank location slot = j

/-- No field in front of a slot is a payload field of a name. -/
def FirstOfName (descriptor : EventDescriptor) (slot : Nat) (name : String) : Prop :=
  ∀ field ∈ descriptor.fields.take slot, field.location = .payload → field.name ≠ name

instance (descriptor : EventDescriptor) (slot : Nat) (name : String) :
    Decidable (descriptor.FirstOfName slot name) :=
  inferInstanceAs (Decidable (∀ field ∈ _, _ → _))

end EventDescriptor

theorem eq_take_append_cons {α : Type} {values : List α} {i : Nat} {value : α}
    (valueAt : values[i]? = some value) :
    values = values.take i ++ value :: values.drop (i + 1) := by
  obtain ⟨inside, here⟩ := List.getElem?_eq_some_iff.mp valueAt
  rw [← here, ← List.drop_eq_getElem_cons inside, List.take_append_drop]

/-- A filtered list holds an element behind as many others as were kept in front of it. -/
theorem getElem?_filter_countP {α : Type} (keeps : α → Bool) {values : List α} {i : Nat} {value : α}
    (valueAt : values[i]? = some value) (kept : keeps value = true) :
    (values.filter keeps)[(values.take i).countP keeps]? = some value := by
  have filtered := congrArg (List.filter keeps) (eq_take_append_cons valueAt)
  rw [List.filter_append, List.filter_cons_of_pos kept] at filtered
  rw [filtered, List.countP_eq_length_filter, List.getElem?_append_right (Nat.le_refl _),
    Nat.sub_self]
  rfl

/-- Adding a name that has a slot already changes nothing, and adding another one puts its slot in
front of what is looked up next. -/
theorem SlotIndex.lookup_insertIfNew_or (index : SlotIndex) (name other : String) (slot : Nat)
    (rest : Option Nat) :
    ((index.insertIfNew name slot).lookup other).or rest =
      (index.lookup other).or (if name = other then some slot else rest) := by
  by_cases same : name = other
  · subst other
    cases held : index.lookup name <;> simp [insertIfNew, held, List.lookup_append]
  · have other_ne : (other == name) = false := by simpa using Ne.symm same
    cases held : index.lookup name <;>
      simp [insertIfNew, held, same, List.lookup_append, List.lookup_cons, other_ne]

namespace EventDecoder

/-- The slots of the fields at a location, the first field having the slot `next`. -/
def slotsAt (location : FieldLocation) (next : Nat) (fields : List EventField) : List Nat :=
  ((fields.zipIdx next).filter fun entry => entry.1.location = location).map (·.2)

/-- The slot of the first field that a test accepts, the first field having the slot `next`. -/
def firstSlot? (accepts : EventField → Bool) (next : Nat) (fields : List EventField) : Option Nat :=
  (fields.findIdx? accepts).map (next + ·)

section Slots

variable (location : FieldLocation) (next : Nat) (field : EventField) (fields : List EventField)

theorem slotsAt_cons :
    slotsAt location next (field :: fields) =
      if field.location = location then next :: slotsAt location (next + 1) fields
      else slotsAt location (next + 1) fields := by
  by_cases here : field.location = location <;> simp [slotsAt, here]

theorem firstSlot?_cons (accepts : EventField → Bool) :
    firstSlot? accepts next (field :: fields) =
      if accepts field then some next else firstSlot? accepts (next + 1) fields := by
  by_cases here : accepts field = true
  · simp [firstSlot?, List.findIdx?_cons, here]
  · simp [firstSlot?, List.findIdx?_cons, here, Function.comp_def, Nat.add_comm, Nat.add_left_comm]

theorem slotsAt_nodup : (slotsAt location next fields).Nodup := by
  have slots : ((fields.zipIdx next).map (·.2)).Nodup := by
    rw [List.zipIdx_map_snd]
    exact List.nodup_range'
  exact slots.sublist (List.filter_sublist.map _)

end Slots

/-- Taking fields into account adds their slots behind those found so far, and no name that has a
slot gets another one. -/
theorem Slots.ofFields_spec (slots : Slots) (next : Nat) (fields : List EventField) :
    (Slots.ofFields slots next fields).topic = slots.topic ++ slotsAt .topicList next fields ∧
      (Slots.ofFields slots next fields).payload = slots.payload ++ slotsAt .payload next fields ∧
      (∀ name, (Slots.ofFields slots next fields).index.lookup name =
        (slots.index.lookup name).or (firstSlot? (·.name == name) next fields)) ∧
      (∀ name, (Slots.ofFields slots next fields).payloadIndex.lookup name =
        (slots.payloadIndex.lookup name).or
          (firstSlot? (fun field => field.location = .payload && field.name == name) next
            fields)) := by
  induction fields generalizing slots next with
  | nil => simp [Slots.ofFields, slotsAt, firstSlot?]
  | cons field fields inductionHypothesis =>
      obtain ⟨topic, payload, index, payloadIndex⟩ :=
        inductionHypothesis (slots.add field next) (next + 1)
      simp only [Slots.ofFields, topic, payload, index, payloadIndex, slotsAt_cons,
        firstSlot?_cons]
      cases located : field.location with
      | topicList => simp [Slots.add, located, SlotIndex.lookup_insertIfNew_or]
      | payload => simp [Slots.add, located, SlotIndex.lookup_insertIfNew_or]

section Compiled

variable (descriptor : EventDescriptor)

theorem topicSlots_compile :
    (compile descriptor).topicSlots = slotsAt .topicList 0 descriptor.fields := by
  simpa [compile] using (Slots.ofFields_spec ⟨[], [], [], []⟩ 0 descriptor.fields).1

theorem payloadSlots_compile :
    (compile descriptor).payloadSlots = slotsAt .payload 0 descriptor.fields := by
  simpa [compile] using (Slots.ofFields_spec ⟨[], [], [], []⟩ 0 descriptor.fields).2.1

/-- A name leads to the first field of that name. -/
theorem lookup_index_compile (name : String) :
    (compile descriptor).layout.index.lookup name =
      descriptor.fields.findIdx? (·.name == name) := by
  simpa [compile, firstSlot?] using
    (Slots.ofFields_spec ⟨[], [], [], []⟩ 0 descriptor.fields).2.2.1 name

/-- The native type of a name is that of the first field of that name. -/
theorem nativeType?_compile (name : String) :
    (compile descriptor).nativeType? name =
      (descriptor.field? name).map fun field => mapType field.type := by
  rw [nativeType?, FieldLayout.nativeType?, FieldLayout.slot?, lookup_index_compile,
    EventDescriptor.field?, List.find?_eq_bind_findIdx?_getElem?, Option.map_bind]
  congr 1
  funext slot
  exact List.getElem?_map

/-- An entry name leads to a slot exactly if the slot holds the first payload field of that name. -/
theorem lookup_payloadIndex_compile (name : String) (slot : Nat) :
    (compile descriptor).payloadIndex.lookup name = some slot ↔
      ∃ field, descriptor.fields[slot]? = some field ∧ field.location = .payload ∧
        field.name = name ∧ descriptor.FirstOfName slot name := by
  have found := (Slots.ofFields_spec ⟨[], [], [], []⟩ 0 descriptor.fields).2.2.2 name
  have index : (compile descriptor).payloadIndex.lookup name =
      descriptor.fields.findIdx? fun field => field.location = .payload && field.name == name := by
    simpa [compile, firstSlot?] using found
  rw [index, List.findIdx?_eq_some_iff_getElem]
  constructor
  · rintro ⟨inside, here, first⟩
    simp only [Bool.and_eq_true, decide_eq_true_eq, beq_iff_eq] at here
    refine ⟨descriptor.fields[slot], List.getElem?_eq_getElem inside, here.1, here.2, ?_⟩
    intro field member located named
    obtain ⟨earlier, before, rfl⟩ := List.mem_take_iff_getElem.mp member
    exact first earlier (by omega) (by simp [located, named])
  · rintro ⟨field, fieldAt, located, named, first⟩
    obtain ⟨inside, rfl⟩ := List.getElem?_eq_some_iff.mp fieldAt
    refine ⟨inside, by simp [located, named], ?_⟩
    intro earlier before here
    simp only [Bool.and_eq_true, decide_eq_true_eq, beq_iff_eq] at here
    exact first _ (List.mem_take_iff_getElem.mpr ⟨earlier, by omega, rfl⟩) here.1 here.2

theorem mem_slotsAt {location : FieldLocation} {slot : Nat} :
    slot ∈ slotsAt location 0 descriptor.fields ↔
      ∃ field, descriptor.fields[slot]? = some field ∧ field.location = location := by
  simp [slotsAt, List.mem_zipIdx_iff_getElem?]

end Compiled

/-- Numbering fields does not change how many of the first ones are at a location. -/
theorem countP_take_zipIdx (location : FieldLocation) (next i : Nat) (fields : List EventField) :
    ((fields.zipIdx next).take i).countP (fun entry => entry.1.location = location) =
      (fields.take i).countP (·.location = location) := by
  conv =>
    rhs
    rw [← List.zipIdx_map_fst next fields, ← List.map_take, List.countP_map]
  rfl

/-- The list of the slots at a location counts its fields. -/
theorem getElem?_slotsAt {location : FieldLocation} (next : Nat) {i : Nat}
    {fields : List EventField} {field : EventField} (fieldAt : fields[i]? = some field)
    (located : field.location = location) :
    (slotsAt location next fields)[(fields.take i).countP (·.location = location)]? =
      some (next + i) := by
  have numbered : (fields.zipIdx next)[i]? = some (field, next + i) := by
    rw [List.getElem?_zipIdx, fieldAt]
    rfl
  have kept := getElem?_filter_countP (fun entry => entry.1.location = location) numbered
    (by simpa using located)
  rw [slotsAt, List.getElem?_map, ← countP_take_zipIdx location next, kept]
  rfl

theorem length_slotsAt (location : FieldLocation) (next : Nat) (fields : List EventField) :
    (slotsAt location next fields).length = fields.countP (·.location = location) := by
  have all := countP_take_zipIdx location next fields.length fields
  rw [List.take_of_length_le (by simp), List.take_length] at all
  rw [slotsAt, List.length_map, ← List.countP_eq_length_filter, all]

/-- The number of topics that a decoder asks for is the one that its descriptor announces. -/
theorem requiredTopics_compile (descriptor : EventDescriptor) :
    (compile descriptor).requiredTopics = descriptor.expectedTopicCount := by
  rw [requiredTopics, topicSlots_compile, length_slotsAt, EventDescriptor.expectedTopicCount,
    EventDescriptor.topicFields, ← List.countP_eq_length_filter]
  rfl

theorem getElem?_slotsAt_of_nth {descriptor : EventDescriptor} {location : FieldLocation}
    {j slot : Nat} {field : EventField} (nth : descriptor.Nth location j slot field) :
    (slotsAt location 0 descriptor.fields)[j]? = some slot := by
  have enumerated := getElem?_slotsAt 0 nth.fieldAt nth.located
  rw [Nat.zero_add] at enumerated
  rw [← nth.counted]
  exact enumerated

end EventDecoder

namespace EventDescriptor

variable {descriptor : EventDescriptor} {location : FieldLocation}

/-- A field stands behind fewer fields of its location than there are. -/
theorem rank_lt {slot : Nat} {field : EventField} (fieldAt : descriptor.fields[slot]? = some field)
    (located : field.location = location) :
    descriptor.rank location slot <
      (descriptor.fields.filter fun field => field.location = location).length := by
  have nth : descriptor.Nth location (descriptor.rank location slot) slot field :=
    ⟨fieldAt, located, rfl⟩
  have slotAt := EventDecoder.getElem?_slotsAt_of_nth nth
  obtain ⟨inside, -⟩ := List.getElem?_eq_some_iff.mp slotAt
  rw [EventDecoder.length_slotsAt, List.countP_eq_length_filter] at inside
  exact inside

/-- As many fields can be told by their number as there are at a location. -/
theorem exists_nth {j : Nat}
    (inside : j < (descriptor.fields.filter fun field => field.location = location).length) :
    ∃ slot field, descriptor.Nth location j slot field := by
  rw [← List.countP_eq_length_filter, ← EventDecoder.length_slotsAt location 0] at inside
  have slotAt := List.getElem?_eq_getElem inside
  obtain ⟨field, fieldAt, located⟩ :=
    (EventDecoder.mem_slotsAt descriptor).mp (List.mem_of_getElem? slotAt)
  refine ⟨_, field, fieldAt, located, ?_⟩
  have nth : descriptor.Nth location _ _ field := ⟨fieldAt, located, rfl⟩
  have ranked := EventDecoder.getElem?_slotsAt_of_nth nth
  have same := slotAt.trans ranked.symm
  exact ((List.getElem?_inj inside (EventDecoder.slotsAt_nodup ..)).mp same).symm

end EventDescriptor

end ContractEvents
