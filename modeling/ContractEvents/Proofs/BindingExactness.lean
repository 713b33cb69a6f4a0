/-
Module: ContractEvents.Proofs.BindingExactness
Purpose: Field binding is exact: what each field is bound to, and what the event or the error says.
Main exports: EventDecoder.BindingExact, EventDecoder.HoldsBound, EventDecoder.decode_binds_exactly
-/
import ContractEvents.Proofs.StageVerdict

namespace ContractEvents.EventDecoder

/-!
For a record that passes the first three stages, the values in the slots are described by position
and by name, without the indexes that the decoder works with.  Either every slot has a value, and
the event holds them all; or the error names the fields of the slots that have none.
-/

variable {σ : Type} {answer : Answers} {descriptor : EventDescriptor} {record : EventRecord}

/-- The values that a record offers, slot by slot.  A topic field has the topic at its position
behind the prefix.  A payload field has the first map entry of its name, if it is the first payload
field of that name; or the item at its position; or, if it is the only one to ask for it, the whole
payload. -/
structure BindingExact (answer : Answers) (descriptor : EventDescriptor) (record : EventRecord)
    (bound : Bound) : Prop where
  length : bound.length = descriptor.fields.length
  topic : ∀ j slot field, descriptor.Nth .topicList j slot field →
    ∃ value, record.topics[descriptor.prefixTopics.length + j]? = some value ∧
      bound[slot]? = some (some value)
  byName : descriptor.payloadShape = .map →
    ∀ j slot field, descriptor.Nth .payload j slot field →
      ∀ value, bound[slot]? = some (some value) ↔
        descriptor.FirstOfName slot field.name ∧
          answer.FirstNamed field.name (entriesOf record.payload) value
  byPosition : descriptor.payloadShape = .vector →
    ∀ j slot field, descriptor.Nth .payload j slot field →
      ∀ value, bound[slot]? = some (some value) ↔ (itemsOf record.payload)[j]? = some value
  whole : descriptor.payloadShape = .singleValue →
    ∀ j slot field, descriptor.Nth .payload j slot field →
      ∀ value, bound[slot]? = some (some value) ↔ j = 0 ∧ value = record.payload

theorem bindings_exact (enough : descriptor.expectedTopicCount ≤ record.topics.length) :
    BindingExact answer descriptor record (descriptor.bindings answer record) where
  length := EventDescriptor.length_bindings ..
  topic := by
    intro j slot field nth
    obtain ⟨found, inside⟩ := EventDescriptor.fieldValue?_of_topic answer enough nth
    rw [List.getElem?_eq_getElem inside] at found ⊢
    exact ⟨_, rfl, by rw [EventDescriptor.getElem?_bindings nth.fieldAt, found]⟩
  byName := by
    intro shape j slot field nth value
    rw [EventDescriptor.getElem?_bindings nth.fieldAt, Option.some.injEq,
      EventDescriptor.fieldValue?, nth.located, shape]
    by_cases first : descriptor.FirstOfName slot field.name
    · simp [first, Answers.valueNamed?_eq_some_iff]
    · simp [first]
  byPosition := by
    intro shape j slot field nth value
    rw [EventDescriptor.getElem?_bindings nth.fieldAt, Option.some.injEq,
      EventDescriptor.fieldValue?, nth.located, shape]
    simp [nth.counted]
  whole := by
    intro shape j slot field nth value
    rw [EventDescriptor.getElem?_bindings nth.fieldAt, Option.some.injEq,
      EventDescriptor.fieldValue?, nth.located, shape]
    cases j with
    | zero => simp [nth.counted, eq_comm]
    | succ j => simp [nth.counted]

/-- If every slot has a value, taking the values out of their slots moves none of them. -/
theorem map_some_filterMap {bound : Bound} (all_bound : ∀ slot : Nat, bound[slot]? ≠ some none) :
    (bound.filterMap id).map some = bound := by
  induction bound with
  | nil => rfl
  | cons value bound inductionHypothesis =>
      cases value with
      | none => exact absurd rfl (all_bound 0)
      | some value =>
          have tail := inductionHypothesis fun slot => all_bound (slot + 1)
          have kept : (some value :: bound).filterMap id = value :: bound.filterMap id := rfl
          rw [kept, List.map_cons, tail]

/-- The event of a record that no stage rejects: one fresh slot for every declared field, in
declaration order, and every name leads to the first field of that name. -/
structure HoldsBound (descriptor : EventDescriptor) (bound : Bound) (event : DecodedEvent) :
    Prop where
  name : event.name = descriptor.name
  fieldNames : event.fieldNames = descriptor.fields.map (·.name)
  raw : event.slots.map (fun slot => some slot.raw) = bound
  fresh : ∀ slot ∈ event.slots, slot.cached = none
  named : ∀ (slot : Nat) (field : EventField), descriptor.fields[slot]? = some field →
    (∀ earlier ∈ descriptor.fields.take slot, earlier.name ≠ field.name) →
      (event.raw? field.name).map some = bound[slot]?

/-- A field name leads to the slot of its field, if no field in front of that has the name. -/
theorem lookup_index_of_first {slot : Nat} {field : EventField}
    (fieldAt : descriptor.fields[slot]? = some field)
    (first : ∀ earlier ∈ descriptor.fields.take slot, earlier.name ≠ field.name) :
    (compile descriptor).layout.slot? field.name = some slot := by
  rw [FieldLayout.slot?, lookup_index_compile, List.findIdx?_eq_some_iff_getElem]
  obtain ⟨inside, rfl⟩ := List.getElem?_eq_some_iff.mp fieldAt
  refine ⟨inside, by simp, ?_⟩
  intro earlier before
  simpa using first _ (List.mem_take_iff_getElem.mpr ⟨earlier, by omega, rfl⟩)

theorem holdsBound_ofRaw {bound : Bound} (all_bound : ∀ slot : Nat, bound[slot]? ≠ some none) :
    HoldsBound descriptor bound
      (DecodedEvent.ofRaw (compile descriptor).layout (bound.filterMap id)) where
  name := rfl
  fieldNames := rfl
  raw := by
    rw [DecodedEvent.ofRaw, List.map_map]
    exact map_some_filterMap all_bound
  fresh := by simp [DecodedEvent.ofRaw]
  named := by
    intro slot field fieldAt first
    have led := lookup_index_of_first fieldAt first
    have values := congrArg (fun values => values[slot]?) (map_some_filterMap all_bound)
    simp only [List.getElem?_map] at values
    rw [← values]
    simp [DecodedEvent.raw?, DecodedEvent.slot?, DecodedEvent.ofRaw, led, Function.comp_def]

/-- A record that passes the first three stages is bound exactly.  If every field has a value, the
event holds those values; if not, the error names the fields without one in declaration order. -/
theorem decode_binds_exactly (fits : descriptor.Matches answer record)
    (shaped : ¬ descriptor.Misshapen record.payload) (state : σ) :
    ∃ (bound : Bound) (verdict : Except EventDecodeError DecodedEvent),
      ((compile descriptor).boundFields (.ofFunction answer) record).run state = (bound, state) ∧
        ((compile descriptor).decode (.ofFunction answer) record).run.run state =
          (verdict, state) ∧
        BindingExact answer descriptor record bound ∧
        ((∃ event, verdict = .ok event) ↔ ∀ slot : Nat, bound[slot]? ≠ some none) ∧
        (∀ event, verdict = .ok event → HoldsBound descriptor bound event) ∧
        ∀ error, verdict = .error error →
          ∃ (slots : List Nat) (names : List String),
            error = .missingPayloadFields names (answer.dump record.payload) ∧
              slots.Pairwise (· < ·) ∧ (∀ slot, slot ∈ slots ↔ bound[slot]? = some none) ∧
              names.map some = slots.map fun slot => descriptor.fields[slot]?.map (·.name) := by
  have unbound_iff := EventDescriptor.exists_unbound_iff answer fits.enough
  have ran : ((compile descriptor).boundFields (.ofFunction answer) record).run state =
      (descriptor.bindings answer record, state) := by
    rw [boundFields_compile]
    rfl
  by_cases unbound : descriptor.PayloadUnbound answer record
  · refine ⟨_, .error (.missingPayloadFields
        (descriptor.namesAt (unboundSlots (descriptor.bindings answer record)))
        (answer.dump record.payload)), ran, ?_, bindings_exact fits.enough, ?_, ?_, ?_⟩
    · rw [decode_of_rejected (.fieldBind fits shaped unbound), run_settled]
    · obtain ⟨slot, free⟩ := unbound_iff.mpr unbound
      constructor
      · rintro ⟨event, ⟨⟩⟩
      · intro all_bound
        exact absurd free (all_bound slot)
    · intro event impossible
      cases impossible
    · rintro error ⟨rfl⟩
      refine ⟨unboundSlots (descriptor.bindings answer record), _, rfl,
        unboundSlots_pairwise _, fun slot => mem_unboundSlots, map_some_namesAt ?_⟩
      intro slot member
      obtain ⟨inside, -⟩ := List.getElem?_eq_some_iff.mp (mem_unboundSlots.mp member)
      simpa using inside
  · have all_bound : ∀ slot : Nat, (descriptor.bindings answer record)[slot]? ≠ some none :=
      fun slot free => unbound (unbound_iff.mp ⟨slot, free⟩)
    refine ⟨_, .ok (DecodedEvent.ofRaw (compile descriptor).layout
        ((descriptor.bindings answer record).filterMap id)), ran, ?_,
      bindings_exact fits.enough, ⟨fun _ => all_bound, fun _ => ⟨_, rfl⟩⟩, ?_, ?_⟩
    · rw [decode_of_accepted ⟨fits, shaped, unbound⟩, run_settled]
    · rintro event ⟨rfl⟩
      exact holdsBound_ofRaw all_bound
    · intro error impossible
      cases impossible

/-! ### A repeated name -/

/-- An event that declares the same payload name twice. -/
private def doubledAmount : EventDescriptor where
  name := "mint"
  prefixTopics := ["mint"]
  fields := [⟨"to", .u32, .topicList, none⟩, ⟨"amount", .u32, .payload, none⟩,
    ⟨"amount", .u32, .payload, none⟩]
  payloadShape := .map

/-- A record with two entries for the doubled name, behind one that has no readable key. -/
private def doubledEntries : EventRecord where
  topics := [.symbol [0x6D, 0x69, 0x6E, 0x74], .u32 7]
  payload := .map (some [(.string [0xFF], .u32 1), (.string [0x61, 0x6D, 0x6F, 0x75, 0x6E, 0x74],
    .u32 2), (.symbol [0x61, 0x6D, 0x6F, 0x75, 0x6E, 0x74], .u32 3)])

private theorem doubledAmount_matches :
    doubledAmount.Matches Value.decode doubledEntries where
  enough := by decide
  agrees := by
    intro i literal topic literalAt topicAt
    cases i with
    | zero =>
        cases literalAt
        cases topicAt
        rfl
    | succ i => cases literalAt

private theorem doubledAmount_shaped : ¬ doubledAmount.Misshapen doubledEntries.payload := by
  rintro (⟨-, other⟩ | ⟨vector, -⟩)
  · exact other _ rfl
  · cases vector

/-- The second entry of a name reaches no field, and the second field of a name finds no entry. -/
theorem decode_binds_exactly_doubled :
    doubledAmount.Matches Value.decode doubledEntries ∧
      ¬ doubledAmount.Misshapen doubledEntries.payload ∧
      ∃ (bound : Bound) (verdict : Except EventDecodeError DecodedEvent),
        ((compile doubledAmount).decode (.ofFunction Value.decode) doubledEntries).run.run () =
            (verdict, ()) ∧
          BindingExact Value.decode doubledAmount doubledEntries bound ∧
          bound = [some (.u32 7), some (.u32 2), none] ∧ ¬ ∃ event, verdict = .ok event := by
  refine ⟨doubledAmount_matches, doubledAmount_shaped, ?_⟩
  obtain ⟨bound, verdict, ran, decoded, exactly, ok_iff, -⟩ :=
    decode_binds_exactly doubledAmount_matches doubledAmount_shaped ()
  have bound_eq : bound = [some (.u32 7), some (.u32 2), none] := (congrArg Prod.fst ran).symm
  refine ⟨bound, verdict, decoded, exactly, bound_eq, ?_⟩
  rw [ok_iff, bound_eq]
  intro all_bound
  exact all_bound 2 rfl

end ContractEvents.EventDecoder
