/-
Module: ContractEvents.Proofs.DecodingStages
Purpose: What the stages in front of field binding come to when the answers to values are fixed.
Main exports: Answers, settled, EventDescriptor.Matches, EventDescriptor.Misshapen,
  EventDecoder.check_of_matches, EventDecoder.matchesRecord_compile
-/
import ContractEvents.Proofs.FieldSlots
import Mathlib.Data.Nat.Find

namespace ContractEvents

/-!
With a value decoder whose answers depend on the value alone, an attempt to decode has an outcome
that no state enters into, and it leaves the state as it was: the attempt is settled.  Every stage
is described by the outcome that it settles on, in terms of the descriptor and the record.
-/

/-- What a decoder without a state answers to each value. -/
abbrev Answers := Value → Except ValueError NativeValue

namespace Answers

/-- How a topic reads in a report: the plain text of its answer, or its tag if there is none. -/
def reading (answer : Answers) (topic : Value) : String :=
  match answer topic with
  | .ok native => native.text
  | .error _ => topic.tag

/-- How a payload reads in a report: the JSON of its answer, or its diagnostic notation. -/
def dump (answer : Answers) (payload : Value) : String :=
  match answer payload with
  | .ok native => native.toJson.pretty
  | .error _ => payload.shown

/-- A key stands for a name: it is answered by the string itself, or by a value of another kind with
that plain text. -/
def Names (answer : Answers) (key : Value) (name : String) : Prop :=
  answer key = .ok (.string name) ∨
    ∃ native, answer key = .ok native ∧ native.asText? = none ∧ native.text = name

/-- The name that a key stands for. -/
def name? (answer : Answers) (key : Value) : Option String :=
  match answer key with
  | .ok native => some (EventDecoder.keyName native)
  | .error _ => none

end Answers

theorem NativeValue.asText?_eq_some_iff {native : NativeValue} {text : String} :
    native.asText? = some text ↔ native = .string text := by
  cases native <;> simp [asText?]

theorem Answers.names_iff {answer : Answers} {key : Value} {name : String} :
    answer.Names key name ↔ answer.name? key = some name := by
  cases answered : answer key with
  | error => simp [Names, name?, answered]
  | ok native =>
      cases native <;>
        simp [Names, name?, answered, EventDecoder.keyName, NativeValue.asText?, NativeValue.text]

/-! ### Settled attempts -/

section Settled

variable {σ ε α β : Type}

/-- The attempt that has an outcome and leaves the state alone. -/
def settled (outcome : Except ε α) : ExceptT ε (StateM σ) α := ExceptT.mk (pure outcome)

@[simp] theorem run_settled (outcome : Except ε α) (state : σ) :
    (settled outcome).run.run state = (outcome, state) := rfl

@[simp] theorem settled_ok_bind (value : α) (next : α → ExceptT ε (StateM σ) β) :
    settled (.ok value) >>= next = next value := rfl

@[simp] theorem settled_error_bind (error : ε) (next : α → ExceptT ε (StateM σ) β) :
    settled (.error error) >>= next = settled (.error error) := rfl

theorem settled_throw (error : ε) :
    (throw error : ExceptT ε (StateM σ) α) = settled (.error error) := rfl

/-- A step without an effect on the state settles on its result. -/
@[simp] theorem lift_pure_bind (value : α) (next : α → ExceptT ε (StateM σ) β) :
    (liftM (pure value : StateM σ α) >>= next : ExceptT ε (StateM σ) β) = next value := rfl

end Settled

@[simp] theorem ValueDecoder.ofFunction_apply {σ : Type} (answer : Answers) (value : Value) :
    (ValueDecoder.ofFunction answer : ValueDecoder σ) value = pure (answer value) := rfl

/-! ### The conditions on a record -/

namespace EventDescriptor

variable (answer : Answers) (descriptor : EventDescriptor) (record : EventRecord)

/-- Every prefix literal is what the topic at its position is answered by. -/
def PrefixAgrees : Prop :=
  ∀ (i : Nat) (literal : String) (topic : Value), descriptor.prefixTopics[i]? = some literal →
    record.topics[i]? = some topic → answer topic = .ok (.string literal)

/-- At a position stands a literal that its topic is not answered by. -/
structure Mismatch (i : Nat) (literal : String) (topic : Value) : Prop where
  literalAt : descriptor.prefixTopics[i]? = some literal
  topicAt : record.topics[i]? = some topic
  differs : answer topic ≠ .ok (.string literal)

/-- A record has the topics and the prefix of the event. -/
structure Matches : Prop where
  enough : descriptor.expectedTopicCount ≤ record.topics.length
  agrees : descriptor.PrefixAgrees answer record

/-- What the cheap test says of a record. -/
def probe : Bool :=
  (((EventDecoder.compile descriptor).matchesRecord (.ofFunction answer) record).run ()).1

/-- A payload is of another kind than the declared shape asks for. -/
def Misshapen (payload : Value) : Prop :=
  (descriptor.payloadShape = .map ∧ ∀ entries, payload ≠ .map entries) ∨
    (descriptor.payloadShape = .vector ∧ ∀ items, payload ≠ .vec items)

end EventDescriptor

namespace EventDecoder

variable {σ : Type} (answer : Answers)

theorem hasShape_eq_false_iff {descriptor : EventDescriptor} {payload : Value} :
    hasShape descriptor.payloadShape payload = false ↔ descriptor.Misshapen payload := by
  cases shape : descriptor.payloadShape <;> cases payload <;>
    simp [hasShape, EventDescriptor.Misshapen, shape]

/-! ### The prefix -/

theorem verifyLiterals_of_agree (index : Nat) {pairs : List (String × Value)}
    (agree : ∀ pair ∈ pairs, answer pair.2 = .ok (.string pair.1)) :
    verifyLiterals (σ := σ) (.ofFunction answer) index pairs = settled (.ok ()) := by
  induction pairs generalizing index with
  | nil => rfl
  | cons pair pairs inductionHypothesis =>
      obtain ⟨literal, topic⟩ := pair
      have here : answer topic = .ok (.string literal) := agree _ List.mem_cons_self
      have tail := inductionHypothesis (index + 1) fun pair member =>
        agree pair (List.mem_cons_of_mem _ member)
      simpa [verifyLiterals, here, NativeValue.asText?] using tail

/-- The scan stops at the first pair that differs and reports its position. -/
theorem verifyLiterals_of_differ (index : Nat) {before : List (String × Value)}
    (after : List (String × Value)) {literal : String} {topic : Value}
    (agree : ∀ pair ∈ before, answer pair.2 = .ok (.string pair.1))
    (differs : answer topic ≠ .ok (.string literal)) :
    verifyLiterals (σ := σ) (.ofFunction answer) index (before ++ (literal, topic) :: after) =
      settled
        (.error (.prefixMismatch (index + before.length) literal (answer.reading topic))) := by
  induction before generalizing index with
  | nil =>
      cases answered : answer topic with
      | error fault =>
          simp [verifyLiterals, answered, Answers.reading, settled_throw]
      | ok native =>
          have other : native.asText? ≠ some literal := by
            intro same
            rw [NativeValue.asText?_eq_some_iff.mp same] at answered
            exact differs answered
          simp [verifyLiterals, answered, Answers.reading, other, settled_throw]
  | cons pair before inductionHypothesis =>
      obtain ⟨expected, found⟩ := pair
      have here : answer found = .ok (.string expected) := agree _ List.mem_cons_self
      have tail := inductionHypothesis (index + 1) fun pair member =>
        agree pair (List.mem_cons_of_mem _ member)
      simpa [verifyLiterals, here, NativeValue.asText?, Nat.add_assoc, Nat.add_comm 1] using tail

variable {descriptor : EventDescriptor} {record : EventRecord}

theorem verifyPrefix_of_agrees (agrees : descriptor.PrefixAgrees answer record) :
    (compile descriptor).verifyPrefix (σ := σ) (.ofFunction answer) record = settled (.ok ()) := by
  apply verifyLiterals_of_agree
  intro pair member
  obtain ⟨i, pairAt⟩ := List.mem_iff_getElem?.mp member
  obtain ⟨literalAt, topicAt⟩ := List.getElem?_zip_eq_some.mp pairAt
  exact agrees i pair.1 pair.2 literalAt topicAt

theorem verifyPrefix_of_mismatch {i : Nat} {literal : String} {topic : Value}
    (mismatch : descriptor.Mismatch answer record i literal topic)
    (least : ∀ j < i, ∀ literal topic, ¬ descriptor.Mismatch answer record j literal topic) :
    (compile descriptor).verifyPrefix (σ := σ) (.ofFunction answer) record =
      settled (.error (.prefixMismatch i literal (answer.reading topic))) := by
  let pairs := descriptor.prefixTopics.zip record.topics
  have pairAt : pairs[i]? = some (literal, topic) :=
    List.getElem?_zip_eq_some.mpr ⟨mismatch.literalAt, mismatch.topicAt⟩
  obtain ⟨inside, -⟩ := List.getElem?_eq_some_iff.mp pairAt
  have agree : ∀ pair ∈ pairs.take i, answer pair.2 = .ok (.string pair.1) := by
    intro pair member
    obtain ⟨j, before, at_j⟩ := List.mem_take_iff_getElem.mp member
    obtain ⟨literalAt, topicAt⟩ :=
      List.getElem?_zip_eq_some.mp (List.getElem?_eq_some_iff.mpr ⟨_, at_j⟩)
    by_contra differs
    exact least j (by omega) pair.1 pair.2 ⟨literalAt, topicAt, differs⟩
  have scanned := verifyLiterals_of_differ (σ := σ) answer 0 (pairs.drop (i + 1)) agree
    mismatch.differs
  have length : (pairs.take i).length = i := List.length_take_of_le (Nat.le_of_lt inside)
  rw [← eq_take_append_cons pairAt, length, Nat.zero_add] at scanned
  exact scanned

/-- A prefix that does not agree has a first literal that does not. -/
theorem exists_first_mismatch (disagrees : ¬ descriptor.PrefixAgrees answer record) :
    ∃ i literal topic, descriptor.Mismatch answer record i literal topic ∧
      ∀ j < i, ∀ literal topic, ¬ descriptor.Mismatch answer record j literal topic := by
  classical
  have exists_mismatch : ∃ i literal topic, descriptor.Mismatch answer record i literal topic := by
    by_contra none_differs
    apply disagrees
    intro i literal topic literalAt topicAt
    by_contra differs
    exact none_differs ⟨i, literal, topic, literalAt, topicAt, differs⟩
  obtain ⟨literal, topic, mismatch⟩ := Nat.find_spec exists_mismatch
  refine ⟨Nat.find exists_mismatch, literal, topic, mismatch, ?_⟩
  intro j before literal topic earlier
  exact Nat.find_min exists_mismatch before ⟨literal, topic, earlier⟩

/-! ### The first two stages -/

theorem check_of_few (few : record.topics.length < descriptor.expectedTopicCount) :
    (compile descriptor).check (σ := σ) (.ofFunction answer) record =
      settled (.error (.tooFewTopics record.topics.length descriptor.expectedTopicCount)) := by
  simp [check, checkTopicCount, requiredTopics_compile, few, settled_throw]

theorem check_of_enough (enough : descriptor.expectedTopicCount ≤ record.topics.length) :
    (compile descriptor).check (σ := σ) (.ofFunction answer) record =
      (compile descriptor).verifyPrefix (.ofFunction answer) record := by
  simp [check, checkTopicCount, requiredTopics_compile, Nat.not_lt.mpr enough]

theorem check_of_matches (fits : descriptor.Matches answer record) :
    (compile descriptor).check (σ := σ) (.ofFunction answer) record = settled (.ok ()) := by
  rw [check_of_enough answer fits.enough, verifyPrefix_of_agrees answer fits.agrees]

theorem check_of_not_matches (fails : ¬ descriptor.Matches answer record) :
    ∃ error, ∀ {σ : Type}, (compile descriptor).check (σ := σ) (.ofFunction answer) record =
      settled (.error error) := by
  by_cases enough : descriptor.expectedTopicCount ≤ record.topics.length
  · have disagrees : ¬ descriptor.PrefixAgrees answer record := fun agrees =>
      fails ⟨enough, agrees⟩
    obtain ⟨i, literal, topic, mismatch, least⟩ := exists_first_mismatch answer disagrees
    exact ⟨_, (check_of_enough answer enough).trans
      (verifyPrefix_of_mismatch answer mismatch least)⟩
  · exact ⟨_, check_of_few answer (Nat.lt_of_not_le enough)⟩

/-- The cheap test says the same in every state. -/
theorem matchesRecord_compile (descriptor : EventDescriptor) (record : EventRecord) :
    (compile descriptor).matchesRecord (.ofFunction answer) record =
      (pure (descriptor.probe answer record) : StateM σ Bool) := by
  by_cases fits : descriptor.Matches answer record
  · rw [EventDescriptor.probe, matchesRecord, matchesRecord, check_of_matches answer fits,
      check_of_matches answer fits]
    rfl
  · obtain ⟨error, rejected⟩ := check_of_not_matches answer fits
    rw [EventDescriptor.probe, matchesRecord, matchesRecord, rejected, rejected]
    rfl

/-- The cheap test tells whether a record has the topics and the prefix of the event. -/
theorem probe_eq_true_iff {descriptor : EventDescriptor} {record : EventRecord} :
    descriptor.probe answer record = true ↔ descriptor.Matches answer record := by
  by_cases fits : descriptor.Matches answer record
  · rw [EventDescriptor.probe, matchesRecord, check_of_matches answer fits]
    exact iff_of_true rfl fits
  · obtain ⟨error, rejected⟩ := check_of_not_matches answer fits
    rw [EventDescriptor.probe, matchesRecord, rejected]
    exact iff_of_false Bool.false_ne_true fits

end EventDecoder

end ContractEvents
