/-
Module: ContractEvents.Proofs.ReadingSessions
Purpose: The cache of a decoded event over every run of calls, for value decoders with a state.
Main exports: FieldCall, FieldReply, Session, Session.Consistent, Session.CacheSound,
  Session.cacheSound_of_decode
-/
import ContractEvents.Decoding.Script
import ContractEvents.Proofs.FieldCaching

namespace ContractEvents

/-!
A session is what a client does with one decoded event: calls in any order, with their replies, and
beside them the values that the value decoder was given.  Every call leads from a consistent session
to a consistent one, so whatever a single read does is known in every session that can be reached.
-/

/-- What a client asks of a decoded event. -/
inductive FieldCall where
  | get (field : String)
  | raw (field : String)
  | nativeType (field : String)
  | isMaterialized (field : String)
  | toJson

/-- What the event replies to a call. -/
inductive FieldReply where
  | value (outcome : Except FieldError NativeValue)
  | raw (bound : Option Value)
  | nativeType (declared : Option NativeType)
  | materialized (kept : Bool)
  | json (outcome : Except FieldError Json)

namespace FieldCall

/-- The fields that a call has read with success, by its reply.  A failed object has read the fields
in front of the one that its error is about. -/
def reads (names : List String) : FieldCall → FieldReply → List String
  | .get field, .value outcome => DecodedEvent.readsOf [field] outcome
  | .toJson, .json outcome => DecodedEvent.readsOf names outcome
  | _, _ => []

/-- The reply to a call, with the event and the decoder state behind it. -/
def perform {τ : Type} (decoder : ValueDecoder τ) (call : FieldCall) (event : DecodedEvent)
    (state : τ) : (FieldReply × DecodedEvent) × τ :=
  match call with
  | .get field =>
      let ((outcome, after), next) := (DecodedEvent.get decoder field).outcome event state
      ((.value outcome, after), next)
  | .raw field => ((.raw (event.raw? field), event), state)
  | .nativeType field => ((.nativeType (event.nativeType? field), event), state)
  | .isMaterialized field => ((.materialized (event.isMaterialized field), event), state)
  | .toJson =>
      let ((outcome, after), next) := (DecodedEvent.toJson decoder).outcome event state
      ((.json outcome, after), next)

theorem mem_of_mem_reads_get {names : List String} {field read : String} {reply : FieldReply}
    (member : read ∈ (get field).reads names reply) : read ∈ [field] := by
  cases reply with
  | value outcome =>
      cases outcome with
      | ok value => exact member
      | error error =>
          rw [reads, DecodedEvent.readsOf] at member
          exact (List.takeWhile_prefix _).subset member
  | _ => cases member

end FieldCall

/-- An event in use: the event and the decoder state as they are now, the values that the decoder
was given so far, and the calls with their replies. -/
structure Session (σ : Type) where
  event : DecodedEvent
  state : σ
  seen : List Value
  log : List (FieldCall × FieldReply)

namespace Session

variable {σ τ : Type}

/-- An event that nothing has been asked yet. -/
def start (event : DecodedEvent) (state : σ) : Session σ := ⟨event, state, [], []⟩

/-- The session after one call. -/
def step (decoder : ValueDecoder σ) (session : Session σ) (call : FieldCall) : Session σ :=
  let ((reply, event), (state, seen)) :=
    call.perform decoder.recording session.event (session.state, session.seen)
  ⟨event, state, seen, session.log ++ [(call, reply)]⟩

/-- The session after calls in order. -/
def run (decoder : ValueDecoder σ) (session : Session σ) (calls : List FieldCall) : Session σ :=
  calls.foldl (step decoder) session

/-- The session in which a call got its reply, and nothing else has changed. -/
def answered (session : Session σ) (call : FieldCall) (reply : FieldReply) : Session σ :=
  { session with log := session.log ++ [(call, reply)] }

variable {decoder : ValueDecoder σ} {descriptor : EventDescriptor} {event : DecodedEvent}
  {session : Session σ} {field : String}

/-! ### What every call keeps up -/

/-- A session on an event of a descriptor: the raw values are those at the start, what is kept is of
the type of its field, and kept are the fields that calls have read, with the values that they
gave. -/
structure Consistent (descriptor : EventDescriptor) (event : DecodedEvent) (session : Session σ) :
    Prop where
  laidOut : session.event.LaidOut descriptor
  same : DecodedEvent.SameRaw event session.event
  accepting : session.event.Accepting descriptor
  materialized : ∀ field, (session.event.cached? field).isSome = true ↔
    ∃ entry ∈ session.log, field ∈ entry.1.reads (descriptor.fields.map (·.name)) entry.2
  kept : ∀ field value, (FieldCall.get field, FieldReply.value (.ok value)) ∈ session.log →
    session.event.cached? field = some value

theorem Consistent.fieldNames (consistent : session.Consistent descriptor event) :
    session.event.fieldNames = descriptor.fields.map (·.name) :=
  consistent.laidOut.fieldNames_eq

theorem consistent_start (state : σ) (laidOut : event.LaidOut descriptor)
    (fresh : ∀ slot ∈ event.slots, slot.cached = none) :
    (start event state).Consistent descriptor event where
  laidOut := laidOut
  same := DecodedEvent.SameRaw.refl event
  accepting := by
    intro slot held value slotAt kept
    rw [fresh held (List.mem_of_getElem? slotAt)] at kept
    cases kept
  materialized := by
    intro field
    have nothing_kept : event.cached? field = none := by
      rw [DecodedEvent.cached?, Option.bind_eq_none_iff]
      intro held found
      obtain ⟨slot, -, slotAt⟩ := Option.bind_eq_some_iff.mp found
      exact fresh held (List.mem_of_getElem? slotAt)
    simp [start, nothing_kept]
  kept := by
    intro field value member
    cases member

/-- An object is made of the members that reading the fields in order gives. -/
theorem outcome_toJson {τ : Type} {decoder : ValueDecoder τ} {event after : DecodedEvent}
    {state next : τ} {outcome : Except FieldError (List (String × Json))}
    (ran : (DecodedEvent.membersOf decoder event.fieldNames).outcome event state =
      ((outcome, after), next)) :
    (DecodedEvent.toJson decoder).outcome event state =
      ((Json.ofMembers <$> outcome, after), next) := by
  rw [DecodedEvent.toJson, FieldReader.outcome_bind (DecodedEvent.outcome_getThe event state)]
  cases outcome with
  | error error => rw [FieldReader.outcome_bind_error ran]; rfl
  | ok members => rw [FieldReader.outcome_bind ran]; rfl

/-- What one call does: it reads the fields that its reply tells, and a value that it gives is
kept. -/
theorem exists_step (decoder : ValueDecoder σ) (consistent : session.Consistent descriptor event)
    (call : FieldCall) :
    ∃ reply after state seen,
      session.step decoder call = ⟨after, state, seen, session.log ++ [(call, reply)]⟩ ∧
        DecodedEvent.Reads session.event after
          (call.reads (descriptor.fields.map (·.name)) reply) ∧
        after.Accepting descriptor ∧
        ∀ field value, call = .get field → reply = .value (.ok value) →
          after.cached? field = some value := by
  cases call with
  | get field =>
      obtain ⟨outcome, after, next, ran, once⟩ := DecodedEvent.exists_readOnce_get
        decoder.recording consistent.laidOut consistent.accepting field
        (session.state, session.seen)
      refine ⟨.value outcome, after, next.1, next.2, ?_, once.reads, once.accepting, ?_⟩
      · simp only [step, FieldCall.perform, ran]
      · rintro _ value ⟨⟩ ⟨⟩
        exact once.keeps value rfl
  | toJson =>
      obtain ⟨outcome, after, next, ran, reads, accepting, -⟩ :=
        DecodedEvent.exists_reads_membersOf decoder.recording session.event.fieldNames
          consistent.laidOut consistent.accepting (session.state, session.seen)
      refine ⟨.json (Json.ofMembers <$> outcome), after, next.1, next.2, ?_, ?_, accepting, ?_⟩
      · simp only [step, FieldCall.perform, outcome_toJson ran]
      · rw [consistent.fieldNames] at reads
        cases outcome with
        | error error => exact reads
        | ok members => exact reads
      · rintro field value ⟨⟩
  | _ =>
      refine ⟨_, session.event, session.state, session.seen, rfl, DecodedEvent.Reads.refl _,
        consistent.accepting, ?_⟩
      rintro field value ⟨⟩

theorem consistent_step (consistent : session.Consistent descriptor event) (call : FieldCall) :
    (session.step decoder call).Consistent descriptor event := by
  obtain ⟨reply, after, state, seen, stepped, reads, accepting, keeps⟩ :=
    exists_step decoder consistent call
  rw [stepped]
  refine ⟨reads.same.laidOut consistent.laidOut, consistent.same.trans reads.same, accepting,
    ?_, ?_⟩
  · intro field
    rw [reads.added, consistent.materialized]
    simp only [List.mem_append, List.mem_singleton, or_and_right, exists_or, exists_eq_left]
  · intro field value member
    rcases List.mem_append.mp member with earlier | now
    · exact reads.kept field value (consistent.kept field value earlier)
    · rw [List.mem_singleton, Prod.mk.injEq] at now
      exact keeps field value now.1.symm now.2.symm

/-- Calls in any number and order lead from a consistent session to a consistent one. -/
theorem consistent_run (consistent : session.Consistent descriptor event)
    (calls : List FieldCall) : (session.run decoder calls).Consistent descriptor event := by
  induction calls generalizing session with
  | nil => exact consistent
  | cons call calls inductionHypothesis =>
      exact inductionHypothesis (consistent_step consistent call)

/-! ### What a reached session is like -/

/-- The first read of a field, by the answer to its raw value: an answer of the right type is kept,
and any other leaves the event as it was. -/
inductive FirstRead (field : String) (expected : NativeType) (before : DecodedEvent) :
    Except ValueError NativeValue → Except FieldError NativeValue → DecodedEvent → Prop where
  | kept {value : NativeValue} {after : DecodedEvent} (accepted : expected.accepts value = true)
      (keeps : after.cached? field = some value) :
      FirstRead field expected before (.ok value) (.ok value) after
  | mismatch {value : NativeValue} (mismatch : expected.accepts value = false) :
      FirstRead field expected before (.ok value)
        (.error (.typeMismatch field expected value.kind)) before
  | refused (fault : ValueError) :
      FirstRead field expected before (.error fault) (.error (.decode field fault)) before

/-- Reads of names one after the other, up to the first that fails, with the members that they
give. -/
inductive ReadInOrder (decoder : ValueDecoder σ) : Session σ → List String →
    Except FieldError (List (String × Json)) → Session σ → Prop where
  | done (session : Session σ) : ReadInOrder decoder session [] (.ok []) session
  | failed {session after : Session σ} {field : String} {error : FieldError}
      (fields : List String) (read : session.step decoder (.get field) = after)
      (reply : after.log = session.log ++ [(.get field, .value (.error error))]) :
      ReadInOrder decoder session (field :: fields) (.error error) after
  | next {session middle after : Session σ} {field : String} {fields : List String}
      {value : NativeValue} {outcome : Except FieldError (List (String × Json))}
      (read : session.step decoder (.get field) = middle)
      (reply : middle.log = session.log ++ [(.get field, .value (.ok value))])
      (others : ReadInOrder decoder middle fields outcome after) :
      ReadInOrder decoder session (field :: fields)
        (((field, value.toJson) :: ·) <$> outcome) after

/-- What is known of a session that has been reached on an event of a descriptor: of the calls so
far, and of each call that may follow. -/
structure CacheSound (descriptor : EventDescriptor) (decoder : ValueDecoder σ)
    (event : DecodedEvent) (reached : Session σ) : Prop where
  /-- Raw values never change. -/
  raw : reached.event.slots.map (·.raw) = event.slots.map (·.raw) ∧
    ∀ field, reached.event.raw? field = event.raw? field
  /-- What is kept is of the native type of its field. -/
  accepted : reached.event.Accepting descriptor
  /-- Materialized are the fields that an earlier call has read. -/
  materialized : ∀ field, reached.event.isMaterialized field = true ↔
    ∃ entry ∈ reached.log, field ∈ entry.1.reads (descriptor.fields.map (·.name)) entry.2
  /-- A call that only looks gets its answer and changes nothing. -/
  looks : ∀ field,
    reached.step decoder (.raw field) =
        reached.answered (.raw field) (.raw (event.raw? field)) ∧
      reached.step decoder (.nativeType field) =
        reached.answered (.nativeType field)
          (.nativeType ((descriptor.field? field).map fun declared => mapType declared.type)) ∧
      reached.step decoder (.isMaterialized field) =
        reached.answered (.isMaterialized field)
          (.materialized (reached.event.isMaterialized field))
  /-- A name that is not declared is refused. -/
  undeclared : ∀ field ∉ descriptor.fields.map (·.name),
    reached.step decoder (.get field) =
      reached.answered (.get field) (.value (.error (.unknownField descriptor.name field)))
  /-- A field that is kept is given, and the decoder is not called. -/
  cached : ∀ field value, reached.event.cached? field = some value →
    reached.step decoder (.get field) = reached.answered (.get field) (.value (.ok value))
  /-- A declared field that is not kept makes one call, on its raw value. -/
  fresh : ∀ field ∈ descriptor.fields.map (·.name), reached.event.cached? field = none →
    ∃ declared raw answer next outcome after,
      descriptor.field? field = some declared ∧ event.raw? field = some raw ∧
        (decoder raw).run reached.state = (answer, next) ∧
        reached.step decoder (.get field) =
          ⟨after, next, reached.seen ++ [raw], reached.log ++ [(.get field, .value outcome)]⟩ ∧
        FirstRead field (mapType declared.type) reached.event answer outcome after
  /-- A read of one field does not touch what another one keeps. -/
  others : ∀ field other, other ≠ field →
    (reached.step decoder (.get field)).event.cached? other = reached.event.cached? other
  /-- An object reads the declared fields in order. -/
  object : ∃ outcome after,
    ReadInOrder decoder reached (descriptor.fields.map (·.name)) outcome after ∧
      reached.step decoder .toJson =
        ⟨after.event, after.state, after.seen,
          reached.log ++ [(.toJson, .json (Json.ofMembers <$> outcome))]⟩
  /-- No call takes away or replaces what is kept. -/
  keeps : ∀ call field value, reached.event.cached? field = some value →
    (reached.step decoder call).event.cached? field = some value
  /-- A field that was read once is given from then on, with the value of that time. -/
  permanent : ∀ field,
    (∀ value, (FieldCall.get field, FieldReply.value (.ok value)) ∈ reached.log →
      reached.step decoder (.get field) = reached.answered (.get field) (.value (.ok value))) ∧
    ∀ entry ∈ reached.log, field ∈ entry.1.reads (descriptor.fields.map (·.name)) entry.2 →
      ∃ value, reached.step decoder (.get field) =
        reached.answered (.get field) (.value (.ok value))

theorem run_recording {raw : Value} {answer : Except ValueError NativeValue} {state next : σ}
    (answered : (decoder raw).run state = (answer, next)) (seen : List Value) :
    (decoder.recording raw).run (state, seen) = (answer, (next, seen ++ [raw])) := by
  have unfolded : (decoder.recording raw).run (state, seen) =
      (((decoder raw).run state).1, (((decoder raw).run state).2, seen ++ [raw])) := rfl
  rw [unfolded, answered]

/-- The session that a read of a field leads to. -/
theorem step_get {outcome : Except FieldError NativeValue} {after : DecodedEvent} {next : σ}
    {seen : List Value}
    (ran : (DecodedEvent.get decoder.recording field).outcome session.event
      (session.state, session.seen) = ((outcome, after), (next, seen))) :
    session.step decoder (.get field) =
      ⟨after, next, seen, session.log ++ [(.get field, .value outcome)]⟩ := by
  simp only [step, FieldCall.perform, ran]

theorem step_get_of_cached (consistent : session.Consistent descriptor event)
    {value : NativeValue} (kept : session.event.cached? field = some value) :
    session.step decoder (.get field) = session.answered (.get field) (.value (.ok value)) :=
  step_get (DecodedEvent.get_of_kept consistent.laidOut kept _ _)

theorem step_get_of_undeclared (consistent : session.Consistent descriptor event)
    (undeclared : field ∉ descriptor.fields.map (·.name)) :
    session.step decoder (.get field) =
      session.answered (.get field)
        (.value (.error (.unknownField descriptor.name field))) := by
  have name : session.event.name = descriptor.name := by
    rw [DecodedEvent.name, consistent.laidOut.layout]
    rfl
  rw [← name]
  exact step_get (DecodedEvent.get_of_unled (consistent.laidOut.unled undeclared) _)

theorem step_get_of_fresh (decoder : ValueDecoder σ)
    (consistent : session.Consistent descriptor event)
    (named : field ∈ descriptor.fields.map (·.name))
    (fresh : session.event.cached? field = none) :
    ∃ declared raw answer next outcome after,
      descriptor.field? field = some declared ∧ event.raw? field = some raw ∧
        (decoder raw).run session.state = (answer, next) ∧
        session.step decoder (.get field) =
          ⟨after, next, session.seen ++ [raw],
            session.log ++ [(.get field, .value outcome)]⟩ ∧
        FirstRead field (mapType declared.type) session.event answer outcome after := by
  obtain ⟨slot, held, declared, fieldAt, -, found⟩ := consistent.laidOut.exists_fieldAt named
  have cached : held.cached = none := by rw [← DecodedEvent.cached?_of_fieldAt fieldAt, fresh]
  have raw : event.raw? field = some held.raw := by
    rw [← consistent.same.raw?_eq, DecodedEvent.raw?_of_fieldAt fieldAt]
  rcases answered : (decoder held.raw).run session.state with ⟨fault | value, next⟩
  · have recorded := run_recording answered session.seen
    exact ⟨declared, held.raw, _, next, _, session.event, found, raw, answered,
      step_get (DecodedEvent.get_of_refused fieldAt cached recorded), .refused fault⟩
  · have recorded := run_recording answered session.seen
    cases accepted : (mapType declared.type).accepts value with
    | false =>
        exact ⟨declared, held.raw, _, next, _, session.event, found, raw, answered,
          step_get (DecodedEvent.get_of_mismatch fieldAt cached recorded accepted),
          .mismatch accepted⟩
    | true =>
        refine ⟨declared, held.raw, _, next, _, session.event.store slot value, found, raw,
          answered, step_get (DecodedEvent.get_of_fresh fieldAt cached recorded accepted),
          .kept accepted ?_⟩
        rw [DecodedEvent.cached?_store consistent.laidOut fieldAt, if_pos rfl]

/-- Reads of names in order, seen from the sessions that they lead through. -/
theorem exists_readInOrder (decoder : ValueDecoder σ) (session : Session σ)
    (names : List String) :
    ∃ outcome after, ReadInOrder decoder session names outcome after ∧
      (DecodedEvent.membersOf decoder.recording names).outcome session.event
          (session.state, session.seen) =
        ((outcome, after.event), (after.state, after.seen)) := by
  induction names generalizing session with
  | nil => exact ⟨.ok [], session, .done session, rfl⟩
  | cons name names inductionHypothesis =>
      rcases ran : (DecodedEvent.get decoder.recording name).outcome session.event
        (session.state, session.seen) with ⟨⟨error | value, middle⟩, next, seen⟩
      · exact ⟨.error error, _, .failed names (step_get ran) rfl,
          FieldReader.outcome_bind_error ran _⟩
      · obtain ⟨outcome, after, others, ranOthers⟩ := inductionHypothesis
          ⟨middle, next, seen, session.log ++ [(.get name, .value (.ok value))]⟩
        refine ⟨_, after, .next (step_get ran) rfl others, ?_⟩
        rw [DecodedEvent.membersOf, FieldReader.outcome_bind ran]
        cases outcome with
        | error error => exact FieldReader.outcome_bind_error ranOthers _
        | ok members => exact FieldReader.outcome_bind ranOthers _

theorem step_toJson (decoder : ValueDecoder σ)
    (consistent : session.Consistent descriptor event) :
    ∃ outcome after,
      ReadInOrder decoder session (descriptor.fields.map (·.name)) outcome after ∧
        session.step decoder .toJson =
          ⟨after.event, after.state, after.seen,
            session.log ++ [(.toJson, .json (Json.ofMembers <$> outcome))]⟩ := by
  obtain ⟨outcome, after, inOrder, ran⟩ :=
    exists_readInOrder decoder session (descriptor.fields.map (·.name))
  rw [← consistent.fieldNames] at ran
  exact ⟨outcome, after, inOrder, by simp only [step, FieldCall.perform, outcome_toJson ran]⟩

theorem step_nativeType (consistent : session.Consistent descriptor event) (field : String) :
    session.step decoder (.nativeType field) =
      session.answered (.nativeType field)
        (.nativeType ((descriptor.field? field).map fun declared => mapType declared.type)) := by
  have declaredType : session.event.nativeType? field =
      (descriptor.field? field).map fun declared => mapType declared.type := by
    rw [DecodedEvent.nativeType?, consistent.laidOut.layout, ← EventDecoder.nativeType?,
      EventDecoder.nativeType?_compile]
  rw [← declaredType]
  rfl

theorem cacheSound_of_consistent (decoder : ValueDecoder σ)
    (consistent : session.Consistent descriptor event) :
    session.CacheSound descriptor decoder event where
  raw := ⟨consistent.same.raw, consistent.same.raw?_eq⟩
  accepted := consistent.accepting
  materialized := by
    intro field
    rw [DecodedEvent.isMaterialized_eq]
    exact consistent.materialized field
  looks := by
    intro field
    refine ⟨?_, step_nativeType consistent field, rfl⟩
    rw [← consistent.same.raw?_eq]
    rfl
  undeclared := fun _ undeclared => step_get_of_undeclared consistent undeclared
  cached := fun _ _ kept => step_get_of_cached consistent kept
  fresh := fun _ named fresh => step_get_of_fresh decoder consistent named fresh
  others := by
    intro field other other_ne
    obtain ⟨reply, after, state, seen, stepped, reads, -⟩ :=
      exists_step decoder consistent (.get field)
    rw [stepped]
    apply reads.cached?_eq
    intro read
    exact other_ne (List.mem_singleton.mp (FieldCall.mem_of_mem_reads_get read))
  object := step_toJson decoder consistent
  keeps := by
    intro call field value kept
    obtain ⟨reply, after, state, seen, stepped, reads, -⟩ := exists_step decoder consistent call
    rw [stepped]
    exact reads.kept field value kept
  permanent := by
    intro field
    refine ⟨fun value given => step_get_of_cached consistent (consistent.kept field value given),
      ?_⟩
    intro entry member read
    have kept := (consistent.materialized field).mpr ⟨entry, member, read⟩
    obtain ⟨value, kept⟩ := Option.isSome_iff_exists.mp kept
    exact ⟨value, step_get_of_cached consistent kept⟩

/-- A session on an event that was just decoded is consistent. -/
theorem consistent_of_decode {values : ValueDecoder τ} {record : EventRecord} {before after : τ}
    (decoded : ((EventDecoder.compile descriptor).decode values record).run.run before =
      (.ok event, after)) (state : σ) :
    (start event state).Consistent descriptor event := by
  obtain ⟨raws, length, rfl⟩ := EventDecoder.exists_raw_of_decode decoded
  apply consistent_start state (DecodedEvent.laidOut_ofRaw length)
  intro slot member
  obtain ⟨bound, -, rfl⟩ := List.mem_map.mp member
  rfl

/-- The cache of a decoded event is sound after every run of calls, whatever the value decoder
answered when the event was decoded, and answers from then on. -/
theorem cacheSound_of_decode {record : EventRecord} {before after : σ}
    (decoded : ((EventDecoder.compile descriptor).decode decoder record).run.run before =
      (.ok event, after))
    (reader : ValueDecoder σ) (state : σ) (calls : List FieldCall) :
    ((start event state).run reader calls).CacheSound descriptor reader event := by
  obtain ⟨raw, length, rfl⟩ := EventDecoder.exists_raw_of_decode decoded
  apply cacheSound_of_consistent
  apply consistent_run
  apply consistent_start state (DecodedEvent.laidOut_ofRaw length)
  intro slot member
  obtain ⟨bound, -, rfl⟩ := List.mem_map.mp member
  rfl

private def payment : EventDescriptor where
  name := "payment"
  prefixTopics := ["pay"]
  fields := [⟨"to", .u32, .topicList, none⟩, ⟨"amount", .i128, .payload, none⟩]
  payloadShape := .singleValue

private def paymentRecord : EventRecord where
  topics := [.symbol [0x70, 0x61, 0x79], .u32 7]
  payload := .i128 ⟨0, 5⟩

private theorem payment_decoded :
    ((EventDecoder.compile payment).decode .scripted paymentRecord).run.run ⟨[("I128", 1)], [], 0⟩ =
      (.ok (.ofRaw (EventDecoder.compile payment).layout [.u32 7, .i128 ⟨0, 5⟩]),
        ⟨[("I128", 1)], [], 1⟩) := rfl

/-- An amount that fails once is tried again by an object, and given without a call from then
on. -/
theorem cacheSound_of_decode_recovering :
    ∃ event after,
      ((EventDecoder.compile payment).decode .scripted paymentRecord).run.run ⟨[("I128", 1)], [], 0⟩
          = (.ok event, after) ∧
        ∃ reached, (start event after).run .scripted [.get "amount", .toJson, .get "amount"]
            = reached ∧
          reached.CacheSound payment .scripted event ∧
          reached.seen = [.i128 ⟨0, 5⟩, .u32 7, .i128 ⟨0, 5⟩] ∧
          reached.log.map (·.2) =
            [.value (.error (.decode "amount" (.unsupported "I128"))),
              .json (.ok (.ofMembers [("to", .int 7), ("amount", .string "5")])),
              .value (.ok (.bigInt "5"))] :=
  ⟨_, _, payment_decoded, _, rfl, cacheSound_of_decode payment_decoded .scripted _ _, rfl, rfl⟩

end Session

end ContractEvents
