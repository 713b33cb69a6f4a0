/-
Module: ContractEvents.Proofs.FieldBinding
Purpose: Which values the fields of a record are bound to.
Main exports: EventDescriptor.fieldValue?, EventDescriptor.bindings,
  EventDecoder.boundFields_compile
-/
import ContractEvents.Proofs.DecodingStages

namespace ContractEvents

/-!
Binding writes values into slots: topics and vector items by position, map entries by name.  The
result is described field by field.  The field at a position among the topic fields has the topic at
that position behind the prefix.  A payload field of a map has the first entry that names it, and no
later field of the same name has any.
-/

namespace Answers

variable (answer : Answers)

/-- The value of the first entry whose key stands for a name. -/
def valueNamed? (name : String) (entries : List (Value × Value)) : Option Value :=
  (entries.find? fun entry => answer.name? entry.1 = some name).map (·.2)

/-- A value is that of the first entry, in stored order, whose key stands for a name. -/
def FirstNamed (name : String) (entries : List (Value × Value)) (value : Value) : Prop :=
  ∃ before key after, entries = before ++ (key, value) :: after ∧ answer.Names key name ∧
    ∀ entry ∈ before, ¬ answer.Names entry.1 name

theorem valueNamed?_eq_some_iff {name : String} {entries : List (Value × Value)}
    {value : Value} :
    answer.valueNamed? name entries = some value ↔ answer.FirstNamed name entries value := by
  simp only [valueNamed?, FirstNamed, Option.map_eq_some_iff, List.find?_eq_some_iff_append,
    names_iff, decide_eq_true_eq, Bool.not_eq_true', decide_eq_false_iff_not]
  constructor
  · rintro ⟨⟨key, held⟩, ⟨named, before, after, split, unnamed⟩, rfl⟩
    exact ⟨before, key, after, split, named, unnamed⟩
  · rintro ⟨before, key, after, split, named, unnamed⟩
    exact ⟨(key, value), ⟨named, before, after, split, unnamed⟩, rfl⟩

theorem valueNamed?_cons_of_named {name : String} {entry : Value × Value}
    (entries : List (Value × Value)) (named : answer.name? entry.1 = some name) :
    answer.valueNamed? name (entry :: entries) = some entry.2 := by
  simp [valueNamed?, named]

theorem valueNamed?_cons_of_unnamed {name : String} {entry : Value × Value}
    (entries : List (Value × Value)) (unnamed : answer.name? entry.1 ≠ some name) :
    answer.valueNamed? name (entry :: entries) = answer.valueNamed? name entries := by
  simp [valueNamed?, unnamed]

/-- Where all entries of a name have one value, that is the value of the name. -/
theorem valueNamed?_of_unique {name : String} {entries : List (Value × Value)} {key value : Value}
    (member : (key, value) ∈ entries) (named : answer.name? key = some name)
    (unique : ∀ entry ∈ entries, answer.name? entry.1 = some name → entry.2 = value) :
    answer.valueNamed? name entries = some value := by
  rw [valueNamed?]
  cases found : entries.find? fun entry => answer.name? entry.1 = some name with
  | none =>
      have unnamed := List.find?_eq_none.mp found (key, value) member
      exact absurd named (by simpa using unnamed)
  | some entry =>
      have namesIt : answer.name? entry.1 = some name := by simpa using List.find?_some found
      rw [Option.map_some, unique entry (List.mem_of_find?_eq_some found) namesIt]

/-- The value of a name is looked for in the first entries, and then in the others. -/
theorem valueNamed?_append (name : String) (entries others : List (Value × Value)) :
    answer.valueNamed? name (entries ++ others) =
      (answer.valueNamed? name entries).or (answer.valueNamed? name others) := by
  rw [valueNamed?, List.find?_append]
  cases found : entries.find? fun entry => answer.name? entry.1 = some name with
  | none => simp [valueNamed?, found]
  | some entry => simp [valueNamed?, found]

/-- A name that some key stands for has a value. -/
theorem isSome_valueNamed? {name : String} {entries : List (Value × Value)} {entry : Value × Value}
    (member : entry ∈ entries) (named : answer.name? entry.1 = some name) :
    (answer.valueNamed? name entries).isSome = true := by
  rw [valueNamed?, Option.isSome_map, List.find?_isSome]
  exact ⟨entry, member, by simpa using named⟩

/-- The slot that a key leads to. -/
def slot? (index : SlotIndex) (key : Value) : Option Nat :=
  (answer.name? key).bind fun name => index.lookup name

end Answers

namespace EventDescriptor

variable (answer : Answers) (descriptor : EventDescriptor) (record : EventRecord)

/-- The value that the field of a slot finds in a record. -/
def fieldValue? (slot : Nat) (field : EventField) : Option Value :=
  match field.location, descriptor.payloadShape with
  | .topicList, _ =>
      record.topics[descriptor.prefixTopics.length + descriptor.rank .topicList slot]?
  | .payload, .map =>
      if descriptor.FirstOfName slot field.name then
        answer.valueNamed? field.name (EventDecoder.entriesOf record.payload)
      else none
  | .payload, .vector => (EventDecoder.itemsOf record.payload)[descriptor.rank .payload slot]?
  | .payload, .singleValue => [record.payload][descriptor.rank .payload slot]?

/-- The values that the fields find, in declaration order. -/
def bindings : EventDecoder.Bound := descriptor.fields.mapIdx (descriptor.fieldValue? answer record)

@[simp] theorem length_bindings :
    (descriptor.bindings answer record).length = descriptor.fields.length := List.length_mapIdx

variable {answer descriptor record}

theorem getElem?_bindings {slot : Nat} {field : EventField}
    (fieldAt : descriptor.fields[slot]? = some field) :
    (descriptor.bindings answer record)[slot]? =
      some (descriptor.fieldValue? answer record slot field) := by
  simp [bindings, fieldAt]

end EventDescriptor

namespace EventDecoder

/-! An absent map or vector offers what an empty one does. -/

theorem entriesOf_map (entries : Option (List (Value × Value))) :
    entriesOf (.map entries) = entries.getD [] := by
  cases entries <;> rfl

theorem itemsOf_vec (items : Option (List Value)) : itemsOf (.vec items) = items.getD [] := by
  cases items <;> rfl

/-! ### Binding by position -/

@[simp] theorem length_bindInOrder (bound : Bound) (pairs : List (Value × Nat)) :
    (bindInOrder bound pairs).length = bound.length := by
  induction pairs generalizing bound with
  | nil => rfl
  | cons pair pairs inductionHypothesis =>
      rw [bindInOrder, List.foldl_cons, ← bindInOrder, inductionHypothesis, List.length_set]

theorem bindInOrder_cons (bound : Bound) (value : Value) (slot : Nat)
    (pairs : List (Value × Nat)) :
    bindInOrder bound ((value, slot) :: pairs) =
      bindInOrder (bound.set slot (some value)) pairs := rfl

theorem getElem?_bindInOrder_of_not_mem {bound : Bound} {values : List Value} {slots : List Nat}
    {slot : Nat} (outside : slot ∉ slots) :
    (bindInOrder bound (values.zip slots))[slot]? = bound[slot]? := by
  induction slots generalizing bound values with
  | nil => simp [bindInOrder]
  | cons head slots inductionHypothesis =>
      cases values with
      | nil => rfl
      | cons value values =>
          rw [List.mem_cons, not_or] at outside
          rw [List.zip_cons_cons, bindInOrder_cons, inductionHypothesis outside.2,
            List.getElem?_set_ne (Ne.symm outside.1)]

/-- A free slot takes the value at its own position in the list of slots, if there is one. -/
theorem getElem?_bindInOrder {bound : Bound} (values : List Value) {slots : List Nat}
    {j slot : Nat} (distinct : slots.Nodup) (slotAt : slots[j]? = some slot)
    (free : bound[slot]? = some none) :
    (bindInOrder bound (values.zip slots))[slot]? = some values[j]? := by
  induction slots generalizing bound values j with
  | nil => simp at slotAt
  | cons head slots inductionHypothesis =>
      obtain ⟨fresh, distinct⟩ := List.nodup_cons.mp distinct
      cases values with
      | nil => simpa [bindInOrder] using free
      | cons value values =>
          rw [List.zip_cons_cons, bindInOrder_cons]
          cases j with
          | zero =>
              obtain rfl : head = slot := by simpa using slotAt
              obtain ⟨inside, -⟩ := List.getElem?_eq_some_iff.mp free
              rw [getElem?_bindInOrder_of_not_mem fresh, List.getElem?_set_self inside]
              rfl
          | succ j =>
              have tail : slots[j]? = some slot := by simpa using slotAt
              have other : head ≠ slot := by
                rintro rfl
                exact fresh (List.mem_of_getElem? tail)
              rw [inductionHypothesis values distinct tail
                (by rw [List.getElem?_set_ne other, free])]
              rfl

/-! ### Binding by name -/

/-- The step that binds one entry, the answer to its key being known. -/
def bindEntry (answer : Answers) (index : SlotIndex) (bound : Bound) (entry : Value × Value) :
    Bound :=
  match answer.slot? index entry.1 with
  | some slot => bindIfFree bound slot entry.2
  | none => bound

variable {σ : Type} {answer : Answers} {index : SlotIndex} {bound : Bound}

theorem bindEntries_ofFunction (entries : List (Value × Value)) :
    bindEntries (.ofFunction answer) index bound entries =
      (pure (entries.foldl (bindEntry answer index) bound) : StateM σ Bound) := by
  induction entries generalizing bound with
  | nil => rfl
  | cons entry entries inductionHypothesis =>
      obtain ⟨key, value⟩ := entry
      simp only [bindEntries, ValueDecoder.ofFunction_apply, pure_bind, List.foldl_cons]
      rw [inductionHypothesis]
      cases answered : answer key with
      | error fault => simp [bindEntry, Answers.slot?, Answers.name?, answered]
      | ok native =>
          cases found : index.lookup (keyName native) <;>
            simp [bindEntry, Answers.slot?, Answers.name?, answered, found]

theorem length_bindEntry (entry : Value × Value) :
    (bindEntry answer index bound entry).length = bound.length := by
  unfold bindEntry bindIfFree
  split
  · split <;> simp
  · rfl

theorem length_foldl_bindEntry (entries : List (Value × Value)) :
    (entries.foldl (bindEntry answer index) bound).length = bound.length := by
  induction entries generalizing bound with
  | nil => rfl
  | cons entry entries inductionHypothesis =>
      rw [List.foldl_cons, inductionHypothesis, length_bindEntry]

theorem getElem?_bindEntry_of_led {slot : Nat} {entry : Value × Value}
    (led : answer.slot? index entry.1 = some slot) (free : bound[slot]? = some none) :
    (bindEntry answer index bound entry)[slot]? = some (some entry.2) := by
  obtain ⟨inside, -⟩ := List.getElem?_eq_some_iff.mp free
  simp only [bindEntry, led, bindIfFree, free, List.getElem?_set_self inside]

/-- Binding an entry writes into no other slot than a free one that its key leads to. -/
theorem getElem?_bindEntry_of_not {slot : Nat} {entry : Value × Value}
    (not_led : ¬ (answer.slot? index entry.1 = some slot ∧ bound[slot]? = some none)) :
    (bindEntry answer index bound entry)[slot]? = bound[slot]? := by
  unfold bindEntry bindIfFree
  split
  · rename_i other led
    split
    · rename_i free
      have other_ne : other ≠ slot := by
        rintro rfl
        exact not_led ⟨led, free⟩
      exact List.getElem?_set_ne other_ne
    · rfl
  · rfl

/-- A slot that has a value keeps it. -/
theorem getElem?_foldl_of_taken {slot : Nat} (entries : List (Value × Value))
    (taken : bound[slot]? ≠ some none) :
    (entries.foldl (bindEntry answer index) bound)[slot]? = bound[slot]? := by
  induction entries generalizing bound with
  | nil => rfl
  | cons entry entries inductionHypothesis =>
      have kept : (bindEntry answer index bound entry)[slot]? = bound[slot]? := by
        exact getElem?_bindEntry_of_not fun both => taken both.2
      rw [List.foldl_cons, inductionHypothesis (by rwa [kept]), kept]

/-- A slot that no name leads to keeps what it has. -/
theorem getElem?_foldl_of_unreached {slot : Nat} (entries : List (Value × Value))
    (unreached : ∀ name, index.lookup name ≠ some slot) :
    (entries.foldl (bindEntry answer index) bound)[slot]? = bound[slot]? := by
  induction entries generalizing bound with
  | nil => rfl
  | cons entry entries inductionHypothesis =>
      rw [List.foldl_cons, inductionHypothesis, getElem?_bindEntry_of_not]
      rintro ⟨led, -⟩
      obtain ⟨name, -, reached⟩ := Option.bind_eq_some_iff.mp led
      exact unreached name reached

/-- A free slot takes the value of the first entry of the only name that leads to it. -/
theorem getElem?_foldl_of_free {slot : Nat} {name : String} (entries : List (Value × Value))
    (reached : ∀ other, index.lookup other = some slot ↔ other = name)
    (free : bound[slot]? = some none) :
    (entries.foldl (bindEntry answer index) bound)[slot]? =
      some (answer.valueNamed? name entries) := by
  have led_iff (key : Value) :
      answer.slot? index key = some slot ↔ answer.name? key = some name := by
    simp [Answers.slot?, Option.bind_eq_some_iff, reached]
  induction entries generalizing bound with
  | nil => simpa [Answers.valueNamed?] using free
  | cons entry entries inductionHypothesis =>
      rw [List.foldl_cons]
      by_cases named : answer.name? entry.1 = some name
      · have written : (bindEntry answer index bound entry)[slot]? = some (some entry.2) :=
          getElem?_bindEntry_of_led ((led_iff entry.1).mpr named) free
        rw [answer.valueNamed?_cons_of_named entries named,
          getElem?_foldl_of_taken entries (by simp [written]), written]
      · have kept : (bindEntry answer index bound entry)[slot]? = some none := by
          rw [getElem?_bindEntry_of_not fun both => named ((led_iff entry.1).mp both.1), free]
        rw [answer.valueNamed?_cons_of_unnamed entries named, inductionHypothesis kept]

/-! ### The bound fields of a record -/

variable {descriptor : EventDescriptor} {record : EventRecord}

/-- A slot is held by one field only, so a payload slot is no topic slot and the reverse. -/
theorem not_mem_slotsAt {location : FieldLocation} {slot : Nat} {field : EventField}
    (fieldAt : descriptor.fields[slot]? = some field) (elsewhere : field.location ≠ location) :
    slot ∉ slotsAt location 0 descriptor.fields := by
  rw [mem_slotsAt]
  rintro ⟨other, otherAt, located⟩
  rw [fieldAt, Option.some.injEq] at otherAt
  exact elsewhere (otherAt ▸ located)

theorem getElem?_slotsAt_rank {slot : Nat} {field : EventField}
    (fieldAt : descriptor.fields[slot]? = some field) :
    (slotsAt field.location 0 descriptor.fields)[descriptor.rank field.location slot]? =
      some slot :=
  getElem?_slotsAt_of_nth ⟨fieldAt, rfl, rfl⟩

/-- The slots of payload fields bound by position are those of the payload values at their rank. -/
theorem getElem?_bindInOrder_payload {slot : Nat} {field : EventField} (values : List Value)
    (fieldAt : descriptor.fields[slot]? = some field) (located : field.location = .payload)
    (free : bound[slot]? = some none) :
    (bindInOrder bound (values.zip (compile descriptor).payloadSlots))[slot]? =
      some values[descriptor.rank .payload slot]? := by
  have slotAt := getElem?_slotsAt_rank fieldAt
  rw [located] at slotAt
  rw [payloadSlots_compile]
  exact getElem?_bindInOrder values (slotsAt_nodup ..) slotAt free

theorem lookup_payloadIndex_of_first {slot : Nat} {field : EventField}
    (fieldAt : descriptor.fields[slot]? = some field) (located : field.location = .payload)
    (first : descriptor.FirstOfName slot field.name) (name : String) :
    (compile descriptor).payloadIndex.lookup name = some slot ↔ name = field.name := by
  rw [lookup_payloadIndex_compile]
  constructor
  · rintro ⟨other, otherAt, -, named, -⟩
    rw [fieldAt, Option.some.injEq] at otherAt
    rw [← named, otherAt]
  · rintro rfl
    exact ⟨field, fieldAt, located, rfl, first⟩

theorem lookup_payloadIndex_of_repeated {slot : Nat} {field : EventField}
    (fieldAt : descriptor.fields[slot]? = some field)
    (repeated : ¬ descriptor.FirstOfName slot field.name) (name : String) :
    (compile descriptor).payloadIndex.lookup name ≠ some slot := by
  intro led
  obtain ⟨other, otherAt, -, named, first⟩ := (lookup_payloadIndex_compile ..).mp led
  rw [fieldAt, Option.some.injEq] at otherAt
  rw [← named, ← otherAt] at first
  exact repeated first

/-- The payload stage gives every payload field its value and leaves the topic fields alone. -/
theorem exists_bindPayload (answer : Answers) (record : EventRecord)
    (free : ∀ (slot : Nat) (field : EventField), descriptor.fields[slot]? = some field →
      field.location = .payload → bound[slot]? = some none) :
    ∃ after : Bound,
      (compile descriptor).bindPayload (σ := σ) (.ofFunction answer) record.payload bound =
        pure after ∧
      after.length = bound.length ∧
      (∀ (slot : Nat) (field : EventField), descriptor.fields[slot]? = some field →
        field.location = .topicList → after[slot]? = bound[slot]?) ∧
      (∀ (slot : Nat) (field : EventField), descriptor.fields[slot]? = some field →
        field.location = .payload →
        after[slot]? = some (descriptor.fieldValue? answer record slot field)) := by
  have elsewhere {slot : Nat} {field : EventField} {values : List Value}
      (fieldAt : descriptor.fields[slot]? = some field) (located : field.location = .topicList) :
      (bindInOrder bound (values.zip (compile descriptor).payloadSlots))[slot]? = bound[slot]? := by
    rw [payloadSlots_compile]
    exact getElem?_bindInOrder_of_not_mem (not_mem_slotsAt fieldAt (by simp [located]))
  cases shape : descriptor.payloadShape with
  | map =>
      refine ⟨(entriesOf record.payload).foldl
        (bindEntry answer (compile descriptor).payloadIndex) bound, ?_, ?_, ?_, ?_⟩
      · rw [bindPayload, show (compile descriptor).descriptor.payloadShape = .map from shape]
        exact bindEntries_ofFunction _
      · exact length_foldl_bindEntry _
      · intro slot field fieldAt located
        apply getElem?_foldl_of_unreached
        intro name led
        obtain ⟨other, otherAt, payload, -⟩ := (lookup_payloadIndex_compile ..).mp led
        rw [fieldAt, Option.some.injEq] at otherAt
        rw [← otherAt, located] at payload
        exact FieldLocation.noConfusion payload
      · intro slot field fieldAt located
        by_cases first : descriptor.FirstOfName slot field.name
        · rw [getElem?_foldl_of_free _ (lookup_payloadIndex_of_first fieldAt located first)
            (free slot field fieldAt located)]
          simp [EventDescriptor.fieldValue?, located, shape, first]
        · rw [getElem?_foldl_of_unreached _ (lookup_payloadIndex_of_repeated fieldAt first),
            free slot field fieldAt located]
          simp [EventDescriptor.fieldValue?, located, shape, first]
  | vector =>
      refine ⟨bindInOrder bound ((itemsOf record.payload).zip (compile descriptor).payloadSlots),
        ?_, length_bindInOrder .., fun slot field => elsewhere, ?_⟩
      · rw [bindPayload, show (compile descriptor).descriptor.payloadShape = .vector from shape]
      · intro slot field fieldAt located
        rw [getElem?_bindInOrder_payload _ fieldAt located (free slot field fieldAt located)]
        simp [EventDescriptor.fieldValue?, located, shape]
  | singleValue =>
      refine ⟨bindInOrder bound ([record.payload].zip (compile descriptor).payloadSlots),
        ?_, length_bindInOrder .., fun slot field => elsewhere, ?_⟩
      · rw [bindPayload,
          show (compile descriptor).descriptor.payloadShape = .singleValue from shape]
      · intro slot field fieldAt located
        rw [getElem?_bindInOrder_payload _ fieldAt located (free slot field fieldAt located)]
        simp [EventDescriptor.fieldValue?, located, shape]

/-- Binding gives every field the value that it finds in the record. -/
theorem boundFields_compile (answer : Answers) (descriptor : EventDescriptor)
    (record : EventRecord) :
    (compile descriptor).boundFields (.ofFunction answer) record =
      (pure (descriptor.bindings answer record) : StateM σ Bound) := by
  let unbound : Bound := descriptor.fields.map fun _ => none
  let topics := record.topics.drop descriptor.prefixTopics.length
  let bound := bindInOrder unbound (topics.zip (compile descriptor).topicSlots)
  have unbound_at {slot : Nat} {field : EventField}
      (fieldAt : descriptor.fields[slot]? = some field) : unbound[slot]? = some none := by
    rw [List.getElem?_map, fieldAt]
    rfl
  have topic_at {slot : Nat} {field : EventField} (fieldAt : descriptor.fields[slot]? = some field)
      (located : field.location = .topicList) :
      bound[slot]? = some (descriptor.fieldValue? answer record slot field) := by
    have slotAt := getElem?_slotsAt_rank fieldAt
    rw [located] at slotAt
    simp only [bound, topicSlots_compile]
    rw [getElem?_bindInOrder topics (slotsAt_nodup ..) slotAt (unbound_at fieldAt)]
    simp [topics, EventDescriptor.fieldValue?, located]
  have payload_at (slot : Nat) (field : EventField)
      (fieldAt : descriptor.fields[slot]? = some field)
      (located : field.location = .payload) : bound[slot]? = some none := by
    simp only [bound, topicSlots_compile]
    rw [getElem?_bindInOrder_of_not_mem (not_mem_slotsAt fieldAt (by simp [located])),
      unbound_at fieldAt]
  obtain ⟨after, paid, length, kept, written⟩ :=
    exists_bindPayload (σ := σ) answer record payload_at
  have after_eq : after = descriptor.bindings answer record := by
    apply List.ext_getElem?
    intro slot
    cases fieldAt : descriptor.fields[slot]? with
    | none =>
        have beyond : descriptor.fields.length ≤ slot := List.getElem?_eq_none_iff.mp fieldAt
        rw [List.getElem?_eq_none (by simpa [length, bound, unbound] using beyond),
          List.getElem?_eq_none (by simpa using beyond)]
    | some field =>
        rw [EventDescriptor.getElem?_bindings fieldAt]
        cases located : field.location with
        | topicList => rw [kept slot field fieldAt located, topic_at fieldAt located]
        | payload => exact written slot field fieldAt located
  rw [← after_eq]
  exact paid

end EventDecoder

end ContractEvents
