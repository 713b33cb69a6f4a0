/-
Module: ContractEvents.Proofs.DecoderCalls
Purpose: Which values are given to the value decoder while a record is decoded, and in which order.
Main exports: Presents, EventDescriptor.Presented, EventDecoder.exists_presents_bindFields,
  EventDecoder.decode_presents_exactly
-/
import ContractEvents.Proofs.FieldSlots

namespace ContractEvents

/-!
A value decoder may count, fail, or answer by what it was given before, so that every value it is
given may show later.  An action is therefore run twice, with a decoder and with the same decoder
recording: the second run ends like the first, and its record has grown by the values that the
action gave to the decoder, one after the other.  Each stage of decoding has its own list of them,
and the lists of stages that follow each other are joined.
-/

section Actions

variable {σ ε α β : Type}

/-- An action ends with a result and a state.  The same action with the recording decoder ends
alike, and records exactly the values of a list. -/
structure Presents (plain : StateM σ α) (recording : StateM (σ × List Value) α) (before : σ)
    (presented : List Value) (result : α) (after : σ) : Prop where
  ran : plain.run before = (result, after)
  recorded : ∀ seen, recording.run (before, seen) = (result, (after, seen ++ presented))

/-- A step that cannot fail hands its result on. -/
theorem run_lift_bind (plain : StateM σ α) (next : α → ExceptT ε (StateM σ) β) :
    (liftM plain >>= next : ExceptT ε (StateM σ) β).run =
      plain >>= fun result => (next result).run := rfl

namespace Presents

variable {plain : StateM σ α} {recording : StateM (σ × List Value) α} {before middle after : σ}
  {presented others : List Value} {result : α} {last : β}

/-- An action without an effect gives nothing to the decoder. -/
theorem done (result : α) (state : σ) :
    Presents (pure result) (pure result) state [] result state where
  ran := rfl
  recorded := by
    intro seen
    rw [List.append_nil]
    rfl

/-- A call of the decoder gives it one value. -/
theorem call {values : ValueDecoder σ} {value : Value} {answer : Except ValueError NativeValue}
    (answered : (values value).run before = (answer, after)) :
    Presents (values value) (values.recording value) before [value] answer after where
  ran := answered
  recorded := by
    intro seen
    have unfolded : (values.recording value).run (before, seen) =
        (((values value).run before).1, (((values value).run before).2, seen ++ [value])) := rfl
    rw [unfolded, answered]

/-- What follows an action adds its values behind those of the action. -/
theorem bind (first : Presents plain recording before presented result middle)
    {next : α → StateM σ β} {nextRecording : α → StateM (σ × List Value) β}
    (second : Presents (next result) (nextRecording result) middle others last after) :
    Presents (plain >>= next) (recording >>= nextRecording) before (presented ++ others) last
      after where
  ran := by
    rw [StateT.run_bind, first.ran]
    exact second.ran
  recorded := by
    intro seen
    rw [StateT.run_bind, first.recorded, ← List.append_assoc]
    exact second.recorded _

variable {attempt : ExceptT ε (StateM σ) α}
  {recordingAttempt : ExceptT ε (StateM (σ × List Value)) α}

/-- An attempt that succeeds is followed by the next one. -/
theorem ok_bind (first : Presents attempt.run recordingAttempt.run before presented (.ok result)
      middle)
    {next : α → ExceptT ε (StateM σ) β} {nextRecording : α → ExceptT ε (StateM (σ × List Value)) β}
    {outcome : Except ε β}
    (second : Presents (next result).run (nextRecording result).run middle others outcome after) :
    Presents (attempt >>= next).run (recordingAttempt >>= nextRecording).run before
      (presented ++ others) outcome after := by
  rw [ExceptT.run_bind, ExceptT.run_bind]
  exact first.bind second

/-- An attempt that fails is the end, and nothing more is given to the decoder. -/
theorem error_bind {error : ε}
    (first : Presents attempt.run recordingAttempt.run before presented (.error error) after)
    (next : α → ExceptT ε (StateM σ) β)
    (nextRecording : α → ExceptT ε (StateM (σ × List Value)) β) :
    Presents (attempt >>= next).run (recordingAttempt >>= nextRecording).run before presented
      (.error error) after := by
  rw [ExceptT.run_bind, ExceptT.run_bind, ← List.append_nil presented]
  exact first.bind (done (Except.error error) after)

/-- A step that cannot fail is followed by an attempt. -/
theorem lift_bind (first : Presents plain recording before presented result middle)
    {next : α → ExceptT ε (StateM σ) β} {nextRecording : α → ExceptT ε (StateM (σ × List Value)) β}
    {outcome : Except ε β}
    (second : Presents (next result).run (nextRecording result).run middle others outcome after) :
    Presents (liftM plain >>= next : ExceptT ε (StateM σ) β).run
      (liftM recording >>= nextRecording : ExceptT ε (StateM (σ × List Value)) β).run before
      (presented ++ others) outcome after := by
  rw [run_lift_bind, run_lift_bind]
  exact first.bind second

end Presents

end Actions

namespace EventDescriptor

/-- The keys that name payload values: those of all entries in stored order if the declared shape is
a map, and none for any other shape. -/
def payloadKeys (descriptor : EventDescriptor) (record : EventRecord) : List Value :=
  match descriptor.payloadShape, record.payload with
  | .map, .map (some entries) => entries.map (·.1)
  | _, _ => []

/-- The values that decoding a record gives to the value decoder, by the verdict that it ends
with. -/
inductive Presented (descriptor : EventDescriptor) (record : EventRecord) :
    Except EventDecodeError DecodedEvent → List Value → Prop where
  /-- Where topics are missing, nothing is decoded. -/
  | tooFewTopics (found expected : Nat) :
      Presented descriptor record (.error (.tooFewTopics found expected)) []
  /-- A mismatch ends the scan of the prefix at the topic that it is about. -/
  | prefixMismatch {i : Nat} (inPrefix : i < descriptor.prefixTopics.length)
      (inTopics : i < record.topics.length) (expected found : String) :
      Presented descriptor record (.error (.prefixMismatch i expected found))
        (record.topics.take (i + 1))
  /-- A payload of another shape is not looked into. -/
  | unexpectedPayloadShape (enough : descriptor.prefixTopics.length ≤ record.topics.length)
      (expected : PayloadShape) (found : String) :
      Presented descriptor record (.error (.unexpectedPayloadShape expected found))
        (record.topics.take descriptor.prefixTopics.length)
  /-- Success takes the prefix topics and the keys. -/
  | decoded (enough : descriptor.prefixTopics.length ≤ record.topics.length)
      (event : DecodedEvent) :
      Presented descriptor record (.ok event)
        (record.topics.take descriptor.prefixTopics.length ++ descriptor.payloadKeys record)
  /-- A report of missing fields shows the whole payload. -/
  | missingPayloadFields (enough : descriptor.prefixTopics.length ≤ record.topics.length)
      (names : List String) (dump : String) :
      Presented descriptor record (.error (.missingPayloadFields names dump))
        (record.topics.take descriptor.prefixTopics.length ++ descriptor.payloadKeys record ++
          [record.payload])

variable {descriptor : EventDescriptor} {record : EventRecord}

theorem payloadKeys_of_map (shape : descriptor.payloadShape = .map) :
    descriptor.payloadKeys record = (EventDecoder.entriesOf record.payload).map (·.1) := by
  rw [payloadKeys, shape]
  cases record.payload with
  | map entries => cases entries <;> rfl
  | _ => rfl

theorem payloadKeys_of_ne (shape : descriptor.payloadShape ≠ .map) :
    descriptor.payloadKeys record = [] := by
  rw [payloadKeys]
  split
  next declared held => exact absurd declared shape
  next => rfl

theorem mem_payloadKeys {value : Value} :
    value ∈ descriptor.payloadKeys record ↔
      descriptor.payloadShape = .map ∧
        ∃ entries, record.payload = .map (some entries) ∧
          ∃ entry ∈ entries, value = entry.1 := by
  constructor
  · intro member
    rw [payloadKeys] at member
    split at member
    next entries shape held =>
      rcases List.mem_map.mp member with ⟨entry, inEntries, same⟩
      exact ⟨shape, entries, held, entry, inEntries, same.symm⟩
    next => cases member
  · rintro ⟨shape, entries, held, entry, inEntries, same⟩
    rw [payloadKeys, shape, held, same]
    exact List.mem_map_of_mem inEntries

/-- Where the values come from: no topic behind the prefix is among them, and of the payload only
keys, or the whole. -/
theorem Presented.origin {verdict : Except EventDecodeError DecodedEvent}
    {presented : List Value} (how : descriptor.Presented record verdict presented) {value : Value}
    (member : value ∈ presented) :
    value ∈ record.topics.take descriptor.prefixTopics.length ∨
      value ∈ descriptor.payloadKeys record ∨
      value = record.payload ∧
        ∃ names dump, verdict = .error (.missingPayloadFields names dump) := by
  cases how with
  | tooFewTopics => cases member
  | prefixMismatch inPrefix => exact .inl ((List.take_subset_take_left _ inPrefix) member)
  | unexpectedPayloadShape => exact .inl member
  | decoded =>
      rcases List.mem_append.mp member with inPrefix | key
      · exact .inl inPrefix
      · exact .inr (.inl key)
  | missingPayloadFields enough names dump =>
      rcases List.mem_append.mp member with earlier | payload
      · rcases List.mem_append.mp earlier with inPrefix | key
        · exact .inl inPrefix
        · exact .inr (.inl key)
      · exact .inr (.inr ⟨List.mem_singleton.mp payload, names, dump, rfl⟩)

end EventDescriptor

namespace EventDecoder

variable {σ : Type} (values : ValueDecoder σ)

/-! ### The prefix -/

/-- How a scan of literals ends: all topics agree, or one does not and none behind it is looked
at. -/
inductive Scanned (index : Nat) (pairs : List (String × Value)) :
    Except EventDecodeError Unit → List Value → Prop where
  | through : Scanned index pairs (.ok ()) (pairs.map (·.2))
  | stopped {i : Nat} (inside : i < pairs.length) (expected found : String) :
      Scanned index pairs (.error (.prefixMismatch (index + i) expected found))
        ((pairs.take (i + 1)).map (·.2))

/-- A pair that agrees, in front of the rest of a scan. -/
theorem Scanned.cons {index : Nat} {pairs : List (String × Value)}
    {outcome : Except EventDecodeError Unit} {presented : List Value} (pair : String × Value)
    (scanned : Scanned (index + 1) pairs outcome presented) :
    Scanned index (pair :: pairs) outcome (pair.2 :: presented) := by
  cases scanned with
  | through => exact .through
  | @stopped i inside expected found =>
      rw [Nat.add_assoc, Nat.add_comm 1 i]
      exact @Scanned.stopped index (pair :: pairs) (i + 1) (Nat.succ_lt_succ inside) expected found

theorem exists_presents_verifyLiterals (index : Nat) (pairs : List (String × Value))
    (before : σ) :
    ∃ outcome presented after,
      Presents (verifyLiterals values index pairs).run
          (verifyLiterals values.recording index pairs).run before presented outcome after ∧
        Scanned index pairs outcome presented := by
  induction pairs generalizing index before with
  | nil => exact ⟨_, _, _, .done (Except.ok ()) before, .through⟩
  | cons pair pairs inductionHypothesis =>
      obtain ⟨expected, topic⟩ := pair
      have stopped : ∀ found, Scanned index ((expected, topic) :: pairs)
          (.error (.prefixMismatch index expected found)) [topic] := fun found =>
        @Scanned.stopped index ((expected, topic) :: pairs) 0 (Nat.succ_pos _) expected found
      rcases answered : (values topic).run before with ⟨fault | native, middle⟩
      · exact ⟨_, _, middle, (Presents.call answered).lift_bind (.done (Except.error _) middle),
          stopped topic.tag⟩
      · by_cases agrees : native.asText? = some expected
        · obtain ⟨outcome, presented, after, presents, scanned⟩ :=
            inductionHypothesis (index + 1) middle
          refine ⟨outcome, _, after, (Presents.call answered).lift_bind ?_, scanned.cons _⟩
          simp only [if_pos agrees]
          exact presents
        · refine ⟨_, _, middle, (Presents.call answered).lift_bind ?_, stopped native.text⟩
          simp only [if_neg agrees]
          exact .done (Except.error _) middle

/-- The topics that stand beside literals. -/
theorem map_snd_zip_topics (literals : List String) (topics : List Value) :
    (literals.zip topics).map (·.2) = topics.take literals.length := by
  induction literals generalizing topics with
  | nil => rfl
  | cons literal literals inductionHypothesis =>
      cases topics with
      | nil => rfl
      | cons topic topics => exact congrArg (topic :: ·) (inductionHypothesis topics)

variable (descriptor : EventDescriptor) (record : EventRecord)

/-- How the first two stages end, with the values that they give to the decoder. -/
inductive PrefixChecked : Except EventDecodeError Unit → List Value → Prop where
  | passed (enough : descriptor.prefixTopics.length ≤ record.topics.length) :
      PrefixChecked (.ok ()) (record.topics.take descriptor.prefixTopics.length)
  | rejected {error : EventDecodeError} {presented : List Value}
      (verdict : descriptor.Presented record (.error error) presented) :
      PrefixChecked (.error error) presented

theorem prefixChecked_of_scanned {outcome : Except EventDecodeError Unit} {presented : List Value}
    (enough : descriptor.prefixTopics.length ≤ record.topics.length)
    (scanned : Scanned 0 (descriptor.prefixTopics.zip record.topics) outcome presented) :
    PrefixChecked descriptor record outcome presented := by
  cases scanned with
  | through =>
      rw [map_snd_zip_topics]
      exact .passed enough
  | @stopped i inside expected found =>
      rw [List.length_zip, Nat.lt_min] at inside
      rw [List.map_take, map_snd_zip_topics, List.take_take, Nat.min_eq_left inside.1, Nat.zero_add]
      exact .rejected (.prefixMismatch inside.1 inside.2 expected found)

theorem exists_presents_check (before : σ) :
    ∃ outcome presented after,
      Presents ((compile descriptor).check values record).run
          ((compile descriptor).check values.recording record).run before presented outcome after ∧
        PrefixChecked descriptor record outcome presented := by
  unfold check checkTopicCount
  by_cases few : record.topics.length < (compile descriptor).requiredTopics
  · simp only [if_pos few]
    exact ⟨_, _, before, (Presents.done (Except.error _) before).error_bind _ _,
      .rejected (.tooFewTopics _ _)⟩
  · have enough : descriptor.prefixTopics.length ≤ record.topics.length :=
      Nat.le_trans (Nat.le_add_right _ _) (Nat.not_lt.mp few)
    obtain ⟨outcome, presented, after, presents, scanned⟩ :=
      exists_presents_verifyLiterals values 0 (descriptor.prefixTopics.zip record.topics) before
    simp only [if_neg few]
    exact ⟨outcome, _, after, (Presents.done (Except.ok ()) before).ok_bind presents,
      prefixChecked_of_scanned descriptor record enough scanned⟩

/-! ### The payload -/

/-- Every key is given to the decoder once, whatever is answered to the keys in front of it. -/
theorem exists_presents_bindEntries (index : SlotIndex) (bound : Bound)
    (entries : List (Value × Value)) (before : σ) :
    ∃ result after,
      Presents (bindEntries values index bound entries)
        (bindEntries values.recording index bound entries) before (entries.map (·.1)) result
        after := by
  induction entries generalizing bound before with
  | nil => exact ⟨bound, before, .done bound before⟩
  | cons entry entries inductionHypothesis =>
      obtain ⟨key, value⟩ := entry
      rcases answered : (values key).run before with ⟨answer, middle⟩
      obtain ⟨result, after, presents⟩ := inductionHypothesis _ middle
      exact ⟨result, after, (Presents.call answered).bind presents⟩

theorem exists_presents_boundFields (before : σ) :
    ∃ bound after,
      Presents ((compile descriptor).boundFields values record)
        ((compile descriptor).boundFields values.recording record) before
        (descriptor.payloadKeys record) bound after := by
  have same : (compile descriptor).descriptor = descriptor := rfl
  unfold boundFields bindPayload
  rw [same]
  cases shape : descriptor.payloadShape with
  | map =>
      rw [EventDescriptor.payloadKeys_of_map shape]
      exact exists_presents_bindEntries values _ _ _ before
  | vector | singleValue =>
      rw [EventDescriptor.payloadKeys_of_ne (by simp [shape])]
      exact ⟨_, before, .done _ before⟩

/-- A report of missing fields gives the payload as a whole to the decoder. -/
theorem exists_presents_dumpPayload (payload : Value) (before : σ) :
    ∃ dump after,
      Presents (dumpPayload values payload) (dumpPayload values.recording payload) before [payload]
        dump after := by
  rcases answered : (values payload).run before with ⟨fault | native, middle⟩
  · exact ⟨_, middle, (Presents.call answered).bind (.done _ middle)⟩
  · exact ⟨_, middle, (Presents.call answered).bind (.done _ middle)⟩

/-- How the binding of fields ends, with the values that it gives to the decoder. -/
inductive FieldsBound : Except EventDecodeError (List Value) → List Value → Prop where
  | complete (raw : List Value) : FieldsBound (.ok raw) (descriptor.payloadKeys record)
  | missing (names : List String) (dump : String) :
      FieldsBound (.error (.missingPayloadFields names dump))
        (descriptor.payloadKeys record ++ [record.payload])

theorem exists_presents_bindFields (before : σ) :
    ∃ outcome presented after,
      Presents ((compile descriptor).bindFields values record).run
          ((compile descriptor).bindFields values.recording record).run before presented outcome
          after ∧
        FieldsBound descriptor record outcome presented := by
  obtain ⟨bound, middle, keys⟩ := exists_presents_boundFields values descriptor record before
  unfold bindFields
  cases complete : ((compile descriptor).missingNames bound).isEmpty with
  | true =>
      refine ⟨.ok (bound.filterMap id), descriptor.payloadKeys record ++ [], middle,
        keys.lift_bind ?_, ?_⟩
      · simp only [complete, if_true]
        exact .done _ middle
      · rw [List.append_nil]
        exact .complete _
  | false =>
      obtain ⟨dump, after, dumped⟩ := exists_presents_dumpPayload values record.payload middle
      refine ⟨.error (.missingPayloadFields ((compile descriptor).missingNames bound) dump),
        descriptor.payloadKeys record ++ ([record.payload] ++ []), after, keys.lift_bind ?_,
        .missing _ dump⟩
      simp only [complete, Bool.false_eq_true, if_false]
      exact dumped.lift_bind (.done _ after)

/-! ### All stages -/

theorem exists_presents_decode (before : σ) :
    ∃ verdict presented after,
      Presents ((compile descriptor).decode values record).run
          ((compile descriptor).decode values.recording record).run before presented verdict
          after ∧
        descriptor.Presented record verdict presented := by
  obtain ⟨checked, inPrefix, middle, checks, how⟩ :=
    exists_presents_check values descriptor record before
  unfold decode
  cases how with
  | rejected verdict => exact ⟨_, _, middle, checks.error_bind _ _, verdict⟩
  | passed enough =>
      unfold verifyPayloadShape
      cases shaped : hasShape (compile descriptor).descriptor.payloadShape record.payload with
      | false =>
          refine ⟨.error (.unexpectedPayloadShape descriptor.payloadShape record.payload.tag),
            record.topics.take descriptor.prefixTopics.length ++ [], middle,
            checks.ok_bind ((Presents.done (Except.error _) middle).error_bind _ _), ?_⟩
          rw [List.append_nil]
          exact .unexpectedPayloadShape enough _ _
      | true =>
          obtain ⟨outcome, presented, after, binds, bound⟩ :=
            exists_presents_bindFields values descriptor record middle
          have shape := Presents.done (Except.ok (ε := EventDecodeError) ()) middle
          cases bound with
          | complete raw =>
              refine ⟨_, _, after,
                checks.ok_bind (shape.ok_bind (binds.ok_bind (.done (Except.ok _) after))), ?_⟩
              rw [List.nil_append, List.append_nil]
              exact .decoded enough _
          | missing names dump =>
              refine ⟨_, _, after, checks.ok_bind (shape.ok_bind (binds.error_bind _ _)), ?_⟩
              rw [List.nil_append, ← List.append_assoc]
              exact .missingPayloadFields enough names dump

/-- Decoding gives to the value decoder, whatever that answers, exactly the values that go with its
verdict: prefix topics, then keys of a declared map, then the payload as a whole for a report of
missing fields.  It gives no topic behind the prefix, and no value inside the payload but keys. -/
theorem decode_presents_exactly (values : ValueDecoder σ) (descriptor : EventDescriptor)
    (record : EventRecord) (before : σ) (seen : List Value) :
    ∃ (verdict : Except EventDecodeError DecodedEvent) (after : σ) (presented : List Value),
      ((compile descriptor).decode values record).run.run before = (verdict, after) ∧
        ((compile descriptor).decode values.recording record).run.run (before, seen) =
          (verdict, (after, seen ++ presented)) ∧
        descriptor.Presented record verdict presented ∧
        ∀ value ∈ presented,
          value ∈ record.topics.take descriptor.prefixTopics.length ∨
            descriptor.payloadShape = .map ∧
              (∃ entries, record.payload = .map (some entries) ∧
                ∃ entry ∈ entries, value = entry.1) ∨
            value = record.payload ∧
              ∃ names dump, verdict = .error (.missingPayloadFields names dump) := by
  obtain ⟨verdict, presented, after, presents, how⟩ :=
    exists_presents_decode values descriptor record before
  refine ⟨verdict, after, presented, presents.ran, presents.recorded seen, how, ?_⟩
  intro value member
  have origin := how.origin member
  rwa [EventDescriptor.mem_payloadKeys] at origin

end EventDecoder

end ContractEvents
