/-
Module: ContractEvents.Proofs.StageVerdict
Purpose: The verdict on a record: which stage rejects it and with which error, or what is bound.
Main exports: EventDescriptor.Rejected, EventDescriptor.Accepted, EventDecoder.decode_verdict
-/
import ContractEvents.Proofs.FieldBinding

namespace ContractEvents

/-!
A record is rejected by the first stage that finds fault with it.  `Rejected` says for each stage
which records reach it and fail there, and with which error.  A record that no stage rejects is
decoded to the event that holds the value of every field.
-/

namespace EventDecoder

/-- The slots without a value, in order. -/
def unboundSlots : Bound → List Nat
  | [] => []
  | none :: bound => 0 :: (unboundSlots bound).map (· + 1)
  | some _ :: bound => (unboundSlots bound).map (· + 1)

theorem mem_unboundSlots {bound : Bound} {slot : Nat} :
    slot ∈ unboundSlots bound ↔ bound[slot]? = some none := by
  induction bound generalizing slot with
  | nil => simp [unboundSlots]
  | cons value bound inductionHypothesis =>
      cases value <;> cases slot <;> simp [unboundSlots, inductionHypothesis]

theorem unboundSlots_pairwise (bound : Bound) : (unboundSlots bound).Pairwise (· < ·) := by
  induction bound with
  | nil => exact .nil
  | cons value bound inductionHypothesis =>
      have shifted : ((unboundSlots bound).map (· + 1)).Pairwise (· < ·) :=
        List.pairwise_map.mpr (inductionHypothesis.imp Nat.succ_lt_succ)
      cases value with
      | none => exact List.pairwise_cons.mpr ⟨by simp, shifted⟩
      | some value => exact shifted

theorem unboundSlots_eq_nil_iff {bound : Bound} :
    unboundSlots bound = [] ↔ ∀ slot : Nat, bound[slot]? ≠ some none := by
  simp [List.eq_nil_iff_forall_not_mem, mem_unboundSlots]

/-- The names that stand beside the slots without a value are the names of those slots. -/
theorem names_of_unbound (bound : Bound) (names : List String) :
    ((bound.zip names).filter fun (value, _) => value.isNone).map (·.2) =
      (unboundSlots bound).filterMap fun slot => names[slot]? := by
  induction bound generalizing names with
  | nil => rfl
  | cons value bound inductionHypothesis =>
      cases names with
      | nil => simp
      | cons name names =>
          have shifted : ((unboundSlots bound).map (· + 1)).filterMap
              (fun slot => (name :: names)[slot]?) =
                (unboundSlots bound).filterMap fun slot => names[slot]? := List.filterMap_map
          cases value with
          | none => simp [unboundSlots, shifted, inductionHypothesis]
          | some value => simp [unboundSlots, shifted, inductionHypothesis]

end EventDecoder

/-- The names of the fields of slots. -/
def EventDescriptor.namesAt (descriptor : EventDescriptor) (slots : List Nat) : List String :=
  slots.filterMap fun slot => descriptor.fields[slot]?.map (·.name)

namespace EventDecoder

theorem missingNames_compile (descriptor : EventDescriptor) (bound : Bound) :
    (compile descriptor).missingNames bound = descriptor.namesAt (unboundSlots bound) := by
  rw [missingNames, names_of_unbound, EventDescriptor.namesAt]
  simp [compile]

/-- No name is left out of the names of slots that hold fields. -/
theorem map_some_namesAt {descriptor : EventDescriptor} {slots : List Nat}
    (inside : ∀ slot ∈ slots, slot < descriptor.fields.length) :
    (descriptor.namesAt slots).map some =
      slots.map fun slot => descriptor.fields[slot]?.map (·.name) := by
  induction slots with
  | nil => rfl
  | cons slot slots inductionHypothesis =>
      have here := List.getElem?_eq_getElem (inside slot List.mem_cons_self)
      have tail := inductionHypothesis fun other member =>
        inside other (List.mem_cons_of_mem _ member)
      rw [EventDescriptor.namesAt] at tail ⊢
      simp [here, tail]

end EventDecoder

namespace EventDescriptor

variable (answer : Answers) (descriptor : EventDescriptor) (record : EventRecord)

/-- Some payload field finds no value. -/
def PayloadUnbound : Prop :=
  ∃ (slot : Nat) (field : EventField), descriptor.fields[slot]? = some field ∧
    field.location = .payload ∧ descriptor.fieldValue? answer record slot field = none

/-- A stage rejects a record with an error, every stage in front of it having let the record
pass. -/
inductive Rejected : DecodeStage → EventDecodeError → Prop where
  | topicCount (few : record.topics.length < descriptor.expectedTopicCount) :
      Rejected .topicCount (.tooFewTopics record.topics.length descriptor.expectedTopicCount)
  | prefixVerify {i : Nat} {literal : String} {topic : Value}
      (enough : descriptor.expectedTopicCount ≤ record.topics.length)
      (mismatch : descriptor.Mismatch answer record i literal topic)
      (least : ∀ j < i, ∀ literal topic, ¬ descriptor.Mismatch answer record j literal topic) :
      Rejected .prefixVerify (.prefixMismatch i literal (answer.reading topic))
  | payloadShape (fits : descriptor.Matches answer record)
      (misshapen : descriptor.Misshapen record.payload) :
      Rejected .payloadShape
        (.unexpectedPayloadShape descriptor.payloadShape record.payload.tag)
  | fieldBind (fits : descriptor.Matches answer record)
      (shaped : ¬ descriptor.Misshapen record.payload)
      (unbound : descriptor.PayloadUnbound answer record) :
      Rejected .fieldBind
        (.missingPayloadFields
          (descriptor.namesAt (EventDecoder.unboundSlots (descriptor.bindings answer record)))
          (answer.dump record.payload))

/-- No stage rejects a record. -/
structure Accepted : Prop where
  fits : descriptor.Matches answer record
  shaped : ¬ descriptor.Misshapen record.payload
  bound : ¬ descriptor.PayloadUnbound answer record

variable {answer descriptor record}

theorem Rejected.stage_eq {stage : DecodeStage} {error : EventDecodeError}
    (rejected : descriptor.Rejected answer record stage error) : error.stage = stage := by
  cases rejected <;> rfl

theorem rejected_or_accepted (answer : Answers) (descriptor : EventDescriptor)
    (record : EventRecord) :
    (∃ stage error, descriptor.Rejected answer record stage error) ∨
      descriptor.Accepted answer record := by
  by_cases enough : descriptor.expectedTopicCount ≤ record.topics.length
  · by_cases agrees : descriptor.PrefixAgrees answer record
    · have fits : descriptor.Matches answer record := ⟨enough, agrees⟩
      by_cases misshapen : descriptor.Misshapen record.payload
      · exact .inl ⟨_, _, .payloadShape fits misshapen⟩
      · by_cases unbound : descriptor.PayloadUnbound answer record
        · exact .inl ⟨_, _, .fieldBind fits misshapen unbound⟩
        · exact .inr ⟨fits, misshapen, unbound⟩
    · obtain ⟨i, literal, topic, mismatch, least⟩ :=
        EventDecoder.exists_first_mismatch answer agrees
      exact .inl ⟨_, _, .prefixVerify enough mismatch least⟩
  · exact .inl ⟨_, _, .topicCount (Nat.lt_of_not_le enough)⟩

/-- A record with enough topics has a value for every topic field. -/
theorem fieldValue?_of_topic (answer : Answers)
    (enough : descriptor.expectedTopicCount ≤ record.topics.length) {j slot : Nat}
    {field : EventField} (nth : descriptor.Nth .topicList j slot field) :
    descriptor.fieldValue? answer record slot field =
        record.topics[descriptor.prefixTopics.length + j]? ∧
      descriptor.prefixTopics.length + j < record.topics.length := by
  constructor
  · simp [fieldValue?, nth.located, nth.counted]
  · have slotAt := EventDecoder.getElem?_slotsAt_of_nth nth
    obtain ⟨inside, -⟩ := List.getElem?_eq_some_iff.mp slotAt
    rw [← EventDecoder.topicSlots_compile] at inside
    rw [← EventDecoder.requiredTopics_compile, EventDecoder.requiredTopics] at enough
    have prefix_eq : (EventDecoder.compile descriptor).descriptor = descriptor := rfl
    rw [prefix_eq] at enough
    omega

/-- What a record with enough topics may leave unbound is a payload field. -/
theorem exists_unbound_iff (answer : Answers)
    (enough : descriptor.expectedTopicCount ≤ record.topics.length) :
    (∃ slot : Nat, (descriptor.bindings answer record)[slot]? = some none) ↔
      descriptor.PayloadUnbound answer record := by
  constructor
  · rintro ⟨slot, free⟩
    cases fieldAt : descriptor.fields[slot]? with
    | none =>
        have beyond := List.getElem?_eq_none_iff.mp fieldAt
        rw [List.getElem?_eq_none (by simpa using beyond)] at free
        cases free
    | some field =>
        rw [getElem?_bindings fieldAt, Option.some.injEq] at free
        cases located : field.location with
        | topicList =>
            obtain ⟨found, inside⟩ := fieldValue?_of_topic answer enough ⟨fieldAt, located, rfl⟩
            rw [free, List.getElem?_eq_getElem inside] at found
            cases found
        | payload => exact ⟨slot, field, fieldAt, located, free⟩
  · rintro ⟨slot, field, fieldAt, -, free⟩
    exact ⟨slot, by rw [getElem?_bindings fieldAt, free]⟩

end EventDescriptor

namespace EventDecoder

variable {σ : Type} {answer : Answers} {descriptor : EventDescriptor} {record : EventRecord}

/-! ### The last two stages -/

theorem verifyPayloadShape_of_misshapen (misshapen : descriptor.Misshapen record.payload) :
    (compile descriptor).verifyPayloadShape (σ := σ) record =
      settled (.error (.unexpectedPayloadShape descriptor.payloadShape record.payload.tag)) := by
  have shape : hasShape (compile descriptor).descriptor.payloadShape record.payload = false :=
    hasShape_eq_false_iff.mpr misshapen
  rw [verifyPayloadShape, shape]
  rfl

theorem verifyPayloadShape_of_shaped (shaped : ¬ descriptor.Misshapen record.payload) :
    (compile descriptor).verifyPayloadShape (σ := σ) record = settled (.ok ()) := by
  have shape : hasShape (compile descriptor).descriptor.payloadShape record.payload = true :=
    (Bool.not_eq_false _).mp fun misshapen => shaped (hasShape_eq_false_iff.mp misshapen)
  rw [verifyPayloadShape, shape]
  rfl

theorem dumpPayload_ofFunction (payload : Value) :
    dumpPayload (.ofFunction answer) payload = (pure (answer.dump payload) : StateM σ String) := by
  cases answered : answer payload <;> simp [dumpPayload, Answers.dump, answered]

theorem bindFields_of_unbound (unbound : ∃ slot : Nat,
      (descriptor.bindings answer record)[slot]? = some none) :
    (compile descriptor).bindFields (σ := σ) (.ofFunction answer) record =
      settled (.error (.missingPayloadFields
        (descriptor.namesAt (unboundSlots (descriptor.bindings answer record)))
        (answer.dump record.payload))) := by
  obtain ⟨slot, free⟩ := unbound
  obtain ⟨inside, -⟩ := List.getElem?_eq_some_iff.mp free
  rw [EventDescriptor.length_bindings] at inside
  have named : descriptor.fields[slot].name ∈
      descriptor.namesAt (unboundSlots (descriptor.bindings answer record)) :=
    List.mem_filterMap.mpr ⟨slot, mem_unboundSlots.mpr free, by simp [inside]⟩
  have some_missing :
      (descriptor.namesAt (unboundSlots (descriptor.bindings answer record))).isEmpty = false :=
    List.isEmpty_eq_false_iff.mpr (List.ne_nil_of_mem named)
  rw [bindFields, boundFields_compile, lift_pure_bind]
  simp only [missingNames_compile, some_missing, dumpPayload_ofFunction]
  rfl

theorem bindFields_of_bound (bound : ∀ slot : Nat,
      (descriptor.bindings answer record)[slot]? ≠ some none) :
    (compile descriptor).bindFields (σ := σ) (.ofFunction answer) record =
      settled (.ok ((descriptor.bindings answer record).filterMap id)) := by
  rw [bindFields, boundFields_compile, lift_pure_bind]
  simp only [missingNames_compile, unboundSlots_eq_nil_iff.mpr bound]
  rfl

/-! ### The verdict -/

theorem decode_of_rejected {stage : DecodeStage} {error : EventDecodeError}
    (rejected : descriptor.Rejected answer record stage error) :
    (compile descriptor).decode (σ := σ) (.ofFunction answer) record = settled (.error error) := by
  rw [decode]
  cases rejected with
  | topicCount few => rw [check_of_few answer few, settled_error_bind]
  | prefixVerify enough mismatch least =>
      rw [check_of_enough answer enough, verifyPrefix_of_mismatch answer mismatch least,
        settled_error_bind]
  | payloadShape fits misshapen =>
      rw [check_of_matches answer fits, settled_ok_bind,
        verifyPayloadShape_of_misshapen misshapen, settled_error_bind]
  | fieldBind fits shaped unbound =>
      rw [check_of_matches answer fits, settled_ok_bind, verifyPayloadShape_of_shaped shaped,
        settled_ok_bind,
        bindFields_of_unbound ((EventDescriptor.exists_unbound_iff answer fits.enough).mpr unbound),
        settled_error_bind]

theorem decode_of_accepted (accepted : descriptor.Accepted answer record) :
    (compile descriptor).decode (σ := σ) (.ofFunction answer) record =
      settled (.ok (DecodedEvent.ofRaw (compile descriptor).layout
        ((descriptor.bindings answer record).filterMap id))) := by
  have bound : ∀ slot : Nat, (descriptor.bindings answer record)[slot]? ≠ some none := by
    intro slot free
    exact accepted.bound
      ((EventDescriptor.exists_unbound_iff answer accepted.fits.enough).mp ⟨slot, free⟩)
  rw [decode, check_of_matches answer accepted.fits, settled_ok_bind,
    verifyPayloadShape_of_shaped accepted.shaped, settled_ok_bind, bindFields_of_bound bound,
    settled_ok_bind]
  rfl

/-- The outcome of decoding a record, whatever the state. -/
theorem exists_decode_settled (answer : Answers) (descriptor : EventDescriptor)
    (record : EventRecord) :
    ∃ verdict : Except EventDecodeError DecodedEvent, ∀ {σ : Type},
      (compile descriptor).decode (σ := σ) (.ofFunction answer) record = settled verdict := by
  rcases EventDescriptor.rejected_or_accepted answer descriptor record with
    ⟨stage, error, rejected⟩ | accepted
  · exact ⟨_, decode_of_rejected rejected⟩
  · exact ⟨_, decode_of_accepted accepted⟩

theorem settled_injective {ε α : Type} {one two : Except ε α}
    (same : (settled one : ExceptT ε (StateM Unit) α) = settled two) : one = two :=
  congrArg Prod.fst (congrFun same ())

theorem verdict_eq_error_iff {verdict : Except EventDecodeError DecodedEvent}
    (decoded : (compile descriptor).decode (.ofFunction answer) record =
      (settled verdict : Decoding Unit DecodedEvent))
    (stage : DecodeStage) (error : EventDecodeError) :
    (verdict = .error error ∧ error.stage = stage) ↔
      descriptor.Rejected answer record stage error := by
  constructor
  · rintro ⟨rfl, rfl⟩
    rcases EventDescriptor.rejected_or_accepted answer descriptor record with
      ⟨stage, other, rejected⟩ | accepted
    · have same := settled_injective (decoded.symm.trans (decode_of_rejected rejected))
      cases same
      rw [rejected.stage_eq]
      exact rejected
    · cases settled_injective (decoded.symm.trans (decode_of_accepted accepted))
  · intro rejected
    exact ⟨settled_injective (decoded.symm.trans (decode_of_rejected rejected)),
      rejected.stage_eq⟩

theorem verdict_eq_ok_iff {verdict : Except EventDecodeError DecodedEvent}
    (decoded : (compile descriptor).decode (.ofFunction answer) record =
      (settled verdict : Decoding Unit DecodedEvent)) :
    (∃ event, verdict = .ok event) ↔ descriptor.Accepted answer record := by
  constructor
  · rintro ⟨event, rfl⟩
    rcases EventDescriptor.rejected_or_accepted answer descriptor record with
      ⟨stage, error, rejected⟩ | accepted
    · cases settled_injective (decoded.symm.trans (decode_of_rejected rejected))
    · exact accepted
  · intro accepted
    exact ⟨_, settled_injective (decoded.symm.trans (decode_of_accepted accepted))⟩

/-- A record that does not match is rejected by one of the first two stages, and no other record
is. -/
theorem matches_iff_not_rejected :
    descriptor.Matches answer record ↔
      (∀ error, ¬ descriptor.Rejected answer record .topicCount error) ∧
        ∀ error, ¬ descriptor.Rejected answer record .prefixVerify error := by
  constructor
  · intro fits
    constructor
    · rintro error ⟨few⟩
      exact Nat.not_lt.mpr fits.enough few
    · intro error rejected
      cases rejected with
      | prefixVerify enough mismatch least =>
          exact mismatch.differs
            (fits.agrees _ _ _ mismatch.literalAt mismatch.topicAt)
  · rintro ⟨not_few, not_mismatched⟩
    rcases EventDescriptor.rejected_or_accepted answer descriptor record with
      ⟨stage, error, rejected⟩ | accepted
    · cases rejected with
      | topicCount few => exact absurd (.topicCount few) (not_few _)
      | prefixVerify enough mismatch least =>
          exact absurd (.prefixVerify enough mismatch least) (not_mismatched _)
      | payloadShape fits => exact fits
      | fieldBind fits => exact fits
    · exact accepted.fits

/-- Decoding settles on the error of the first stage that rejects the record, and on an event if
none does; the cheap test fails exactly for the records that one of the first two stages rejects. -/
theorem decode_verdict (answer : Answers) (descriptor : EventDescriptor) (record : EventRecord)
    (state : σ) :
    ∃ (verdict : Except EventDecodeError DecodedEvent) (matched : Bool),
      ((compile descriptor).decode (.ofFunction answer) record).run.run state =
          (verdict, state) ∧
        ((compile descriptor).matchesRecord (.ofFunction answer) record).run state =
          (matched, state) ∧
        (∀ stage error, verdict = .error error ∧ error.stage = stage ↔
          descriptor.Rejected answer record stage error) ∧
        ((∃ event, verdict = .ok event) ↔ descriptor.Accepted answer record) ∧
        (matched = true ↔
          (∀ found expected, verdict ≠ .error (.tooFewTopics found expected)) ∧
            ∀ i expected found, verdict ≠ .error (.prefixMismatch i expected found)) := by
  obtain ⟨verdict, decoded⟩ := exists_decode_settled answer descriptor record
  have rejected_iff := verdict_eq_error_iff decoded
  refine ⟨verdict, descriptor.probe answer record, ?_, ?_, rejected_iff,
    verdict_eq_ok_iff decoded, ?_⟩
  · rw [decoded, run_settled]
  · rw [matchesRecord_compile]
    rfl
  · rw [probe_eq_true_iff, matches_iff_not_rejected]
    constructor
    · rintro ⟨not_few, not_mismatched⟩
      exact ⟨fun found expected rejected =>
          not_few _ ((rejected_iff .topicCount _).mp ⟨rejected, rfl⟩),
        fun i expected found rejected =>
          not_mismatched _ ((rejected_iff .prefixVerify _).mp ⟨rejected, rfl⟩)⟩
    · rintro ⟨not_few, not_mismatched⟩
      constructor
      · intro error rejected
        have verdict_eq := ((rejected_iff .topicCount error).mpr rejected).1
        cases rejected
        exact not_few _ _ verdict_eq
      · intro error rejected
        have verdict_eq := ((rejected_iff .prefixVerify error).mpr rejected).1
        cases rejected
        exact not_mismatched _ _ _ verdict_eq

end EventDecoder

end ContractEvents
