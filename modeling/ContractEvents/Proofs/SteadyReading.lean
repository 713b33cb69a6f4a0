/-
Module: ContractEvents.Proofs.SteadyReading
Purpose: What reads of a decoded event give when the value decoder always answers alike.
Main exports: ValueDecoder.Steady, DecodedEvent.steadyValue, DecodedEvent.Faithful,
  DecodedEvent.get_of_steady, DecodedEvent.toJson_of_steady, Session.faithful_run
-/
import ContractEvents.Proofs.ReadingSessions

namespace ContractEvents

/-!
A decoder whose answer hangs on the value alone makes the cache of an event invisible: a native
value is only kept if it is the answer to its raw value, so a read gives the same whether or not the
field was read before.  An object is then the list of what its fields give, up to the first that
fails.
-/

variable {σ : Type} {decoder : ValueDecoder σ} {answer : Answers}

namespace ValueDecoder

/-- A decoder always answers alike, whatever it does to its state. -/
def Steady (decoder : ValueDecoder σ) (answer : Answers) : Prop :=
  ∀ value state, ((decoder value).run state).1 = answer value

theorem steady_ofFunction (answer : Answers) : (ofFunction answer : ValueDecoder σ).Steady answer :=
  fun _ _ => rfl

theorem Steady.recording (steady : decoder.Steady answer) : decoder.recording.Steady answer := by
  intro value
  rintro ⟨state, seen⟩
  exact steady value state

theorem Steady.exists_run (steady : decoder.Steady answer) (value : Value) (state : σ) :
    ∃ next, (decoder value).run state = (answer value, next) :=
  ⟨_, Prod.ext (steady value state) rfl⟩

end ValueDecoder

/-- What the answer to a raw value means for a field of a native type. -/
def NativeType.receive (expected : NativeType) (field : String) :
    Except ValueError NativeValue → Except FieldError NativeValue
  | .error fault => .error (.decode field fault)
  | .ok value =>
      if expected.accepts value then .ok value
      else .error (.typeMismatch field expected value.kind)

/-- Any answer at all is good for a field of any type, and a fault is passed on. -/
theorem NativeType.receive_any (tag field : String) (outcome : Except ValueError NativeValue) :
    (any tag).receive field outcome = outcome.mapError (.decode field) := by
  cases outcome with
  | error fault => rfl
  | ok value => simp [receive, accepts, Except.mapError]

namespace DecodedEvent

variable {event after : DecodedEvent} {field : String} {slot : Nat} {held : FieldSlot}
  {expected : NativeType} {value : NativeValue} {state : σ}

/-- What a read of a field gives under fixed answers. -/
def steadyValue (answer : Answers) (event : DecodedEvent) (field : String) :
    Except FieldError NativeValue :=
  match event.raw? field, event.nativeType? field with
  | some raw, some expected => expected.receive field (answer raw)
  | _, _ => .error (.unknownField event.name field)

/-- The members that reads of names in order give under fixed answers. -/
def steadyMembers (answer : Answers) (event : DecodedEvent) (names : List String) :
    Except FieldError (List (String × Json)) :=
  names.mapM fun field => do return (field, (← event.steadyValue answer field).toJson)

/-- What a slot keeps is the answer to its raw value, and its type accepts it. -/
def Faithful (answer : Answers) (event : DecodedEvent) : Prop :=
  ∀ (slot : Nat) (held : FieldSlot) (value : NativeValue), event.slots[slot]? = some held →
    held.cached = some value →
      answer held.raw = .ok value ∧
        ∃ expected, event.layout.types[slot]? = some expected ∧ expected.accepts value = true

theorem faithful_ofRaw (answer : Answers) (layout : FieldLayout) (raw : List Value) :
    (ofRaw layout raw).Faithful answer := by
  intro slot held value slotAt kept
  obtain ⟨bound, -, rfl⟩ := List.mem_map.mp (List.mem_of_getElem? slotAt)
  cases kept

theorem faithful_store (faithful : event.Faithful answer)
    (fieldAt : event.FieldAt field slot held expected) (answered : answer held.raw = .ok value)
    (accepted : expected.accepts value = true) : (event.store slot value).Faithful answer := by
  intro other now kept nowAt keptNow
  simp only [store, List.getElem?_modify] at nowAt
  by_cases same : slot = other
  · subst other
    rw [fieldAt.slotAt] at nowAt
    obtain rfl : { held with cached := some value } = now := by simpa using nowAt
    cases keptNow
    exact ⟨answered, expected, fieldAt.typeAt, accepted⟩
  · exact faithful other now kept (by simpa [same] using nowAt) keptNow

theorem steadyValue_of_fieldAt (fieldAt : event.FieldAt field slot held expected) :
    event.steadyValue answer field = expected.receive field (answer held.raw) := by
  have raw := raw?_of_fieldAt fieldAt
  have type : event.nativeType? field = some expected := by
    rw [nativeType?, FieldLayout.nativeType?, fieldAt.led, Option.bind_some, fieldAt.typeAt]
  rw [steadyValue, raw, type]

/-- A declared field is read by the answer to its raw value and the native type of its first
declaration. -/
theorem LaidOut.steadyValue_eq {descriptor : EventDescriptor} {first : EventField} {raw : Value}
    (laidOut : event.LaidOut descriptor) (found : descriptor.field? field = some first)
    (bound : event.raw? field = some raw) :
    event.steadyValue answer field = (mapType first.type).receive field (answer raw) := by
  have named : field ∈ descriptor.fields.map (·.name) := by
    rw [List.mem_map]
    exact ⟨first, List.mem_of_find?_eq_some found, by simpa using List.find?_some found⟩
  obtain ⟨slot, held, there, fieldAt, -, foundThere⟩ := laidOut.exists_fieldAt named
  obtain rfl : first = there := Option.some.inj (found.symm.trans foundThere)
  rw [raw?_of_fieldAt fieldAt, Option.some.injEq] at bound
  rw [steadyValue_of_fieldAt fieldAt, bound]

theorem SameRaw.steadyValue_eq (same : SameRaw event after) (field : String) :
    after.steadyValue answer field = event.steadyValue answer field := by
  rw [steadyValue, steadyValue, same.raw?_eq, nativeType?, nativeType?, name, name, same.layout]

theorem SameRaw.steadyMembers_eq (same : SameRaw event after) (names : List String) :
    after.steadyMembers answer names = event.steadyMembers answer names := by
  rw [steadyMembers, steadyMembers]
  simp only [same.steadyValue_eq]

/-- A field of an event has a slot with a native type, or reading it is refused at once. -/
theorem fieldAt_or_unknown (answer : Answers) (event : DecodedEvent) (field : String) :
    (∃ slot held expected, event.FieldAt field slot held expected) ∨
      event.steadyValue answer field = .error (.unknownField event.name field) ∧
        ∀ {τ : Type} (decoder : ValueDecoder τ) (state : τ),
          (get decoder field).outcome event state =
            ((.error (.unknownField event.name field), event), state) := by
  cases led : event.layout.slot? field with
  | none =>
      refine .inr ⟨?_, fun _ state => get_of_unled led state⟩
      rw [steadyValue, raw?, slot?, led]
      rfl
  | some slot =>
      cases slotAt : event.slots[slot]? with
      | none =>
          refine .inr ⟨?_, fun decoder state => ?_⟩
          · rw [steadyValue, raw?, slot?, led, Option.bind_some, slotAt]
            rfl
          · simp only [get]
            rw [FieldReader.outcome_bind (outcome_getThe event state)]
            simp only [led, slotAt]
            rfl
      | some held =>
          cases typeAt : event.layout.types[slot]? with
          | none =>
              refine .inr ⟨?_, fun decoder state => ?_⟩
              · rw [steadyValue, nativeType?, FieldLayout.nativeType?, led, Option.bind_some,
                  typeAt]
                cases event.raw? field <;> rfl
              · simp only [get]
                rw [FieldReader.outcome_bind (outcome_getThe event state)]
                simp only [led, slotAt, typeAt]
                rfl
          | some expected => exact .inl ⟨slot, held, expected, led, slotAt, typeAt⟩

/-- Under fixed answers a read gives the same before and after any other one. -/
theorem get_of_steady (steady : decoder.Steady answer) (faithful : event.Faithful answer)
    (field : String) (state : σ) :
    ∃ after next,
      (get decoder field).outcome event state = ((event.steadyValue answer field, after), next) ∧
        after.Faithful answer ∧ SameRaw event after := by
  rcases fieldAt_or_unknown answer event field with
    ⟨slot, held, expected, fieldAt⟩ | ⟨unknown, refused⟩
  · rw [steadyValue_of_fieldAt fieldAt]
    cases cached : held.cached with
    | some value =>
        obtain ⟨answered, there, typeAt, accepted⟩ := faithful slot held value fieldAt.slotAt cached
        obtain rfl : expected = there := Option.some.inj (fieldAt.typeAt.symm.trans typeAt)
        refine ⟨event, state, ?_, faithful, SameRaw.refl event⟩
        rw [get_of_cached fieldAt cached, answered, NativeType.receive, if_pos accepted]
    | none =>
        obtain ⟨next, ran⟩ := steady.exists_run held.raw state
        cases answered : answer held.raw with
        | error fault =>
            rw [answered] at ran
            exact ⟨event, next, get_of_refused fieldAt cached ran, faithful, SameRaw.refl event⟩
        | ok value =>
            rw [answered] at ran
            by_cases accepted : expected.accepts value = true
            · refine ⟨event.store slot value, next, ?_,
                faithful_store faithful fieldAt answered accepted, sameRaw_store event slot value⟩
              rw [get_of_fresh fieldAt cached ran accepted, NativeType.receive, if_pos accepted]
            · refine ⟨event, next, ?_, faithful, SameRaw.refl event⟩
              rw [get_of_mismatch fieldAt cached ran (by simpa using accepted), NativeType.receive,
                if_neg accepted]
  · rw [unknown]
    exact ⟨event, state, refused decoder state, faithful, SameRaw.refl event⟩

theorem membersOf_of_steady (steady : decoder.Steady answer) (names : List String)
    (faithful : event.Faithful answer) (state : σ) :
    ∃ after next,
      (membersOf decoder names).outcome event state =
          ((event.steadyMembers answer names, after), next) ∧
        after.Faithful answer ∧ SameRaw event after := by
  induction names generalizing event state with
  | nil => exact ⟨event, state, rfl, faithful, SameRaw.refl event⟩
  | cons name names inductionHypothesis =>
      obtain ⟨middle, next, read, faithfulMiddle, same⟩ :=
        get_of_steady steady faithful name state
      have unfolded : event.steadyMembers answer (name :: names) = do
          let value ← event.steadyValue answer name
          let others ← event.steadyMembers answer names
          return (name, value.toJson) :: others := by
        rw [steadyMembers, List.mapM_cons]
        cases event.steadyValue answer name <;> rfl
      rw [unfolded, membersOf]
      cases given : event.steadyValue answer name with
      | error error =>
          rw [given] at read
          exact ⟨middle, next, FieldReader.outcome_bind_error read _, faithfulMiddle, same⟩
      | ok value =>
          rw [given] at read
          obtain ⟨after, last, readOthers, faithfulAfter, sameAfter⟩ :=
            inductionHypothesis faithfulMiddle next
          rw [same.steadyMembers_eq] at readOthers
          refine ⟨after, last, ?_, faithfulAfter, same.trans sameAfter⟩
          rw [FieldReader.outcome_bind read]
          cases others : event.steadyMembers answer names with
          | error error =>
              rw [others] at readOthers
              exact FieldReader.outcome_bind_error readOthers _
          | ok members =>
              rw [others] at readOthers
              exact FieldReader.outcome_bind readOthers _

/-- The object of an event under fixed answers. -/
theorem toJson_of_steady (steady : decoder.Steady answer) (faithful : event.Faithful answer)
    (state : σ) :
    ∃ after next,
      (toJson decoder).outcome event state =
          ((Json.ofMembers <$> event.steadyMembers answer event.fieldNames, after), next) ∧
        after.Faithful answer ∧ SameRaw event after := by
  obtain ⟨after, next, ran, kept⟩ :=
    membersOf_of_steady steady event.fieldNames faithful state
  exact ⟨after, next, Session.outcome_toJson ran, kept⟩

end DecodedEvent

namespace Session

variable {session : Session σ}

/-- No call spoils a faithful event. -/
theorem faithful_step (steady : decoder.Steady answer) (faithful : session.event.Faithful answer)
    (call : FieldCall) : (session.step decoder call).event.Faithful answer := by
  cases call with
  | get field =>
      obtain ⟨after, next, ran, kept, -⟩ := DecodedEvent.get_of_steady steady.recording faithful
        field (session.state, session.seen)
      simp only [step, FieldCall.perform, ran]
      exact kept
  | toJson =>
      obtain ⟨after, next, ran, kept, -⟩ := DecodedEvent.toJson_of_steady steady.recording faithful
        (session.state, session.seen)
      simp only [step, FieldCall.perform, ran]
      exact kept
  | _ => exact faithful

theorem faithful_run (steady : decoder.Steady answer) (faithful : session.event.Faithful answer)
    (calls : List FieldCall) : (session.run decoder calls).event.Faithful answer := by
  induction calls generalizing session with
  | nil => exact faithful
  | cons call calls inductionHypothesis =>
      exact inductionHypothesis (faithful_step steady faithful call)

/-- After whatever calls on the event of a record, a declared field gives the answer to its raw
value, as far as its native type accepts it. -/
theorem get_after_run {values : ValueDecoder σ} {descriptor : EventDescriptor}
    {record : EventRecord} {before after : σ} {event : DecodedEvent}
    (decoded : ((EventDecoder.compile descriptor).decode values record).run.run before =
      (.ok event, after))
    (steady : decoder.Steady answer) (state : σ) (calls : List FieldCall) {field : String}
    {declared : EventField} (found : descriptor.field? field = some declared) {raw : Value}
    (bound : event.raw? field = some raw) (now : σ) :
    ∃ last next,
      (DecodedEvent.get decoder field).outcome ((start event state).run decoder calls).event now =
        (((mapType declared.type).receive field (answer raw), last), next) := by
  have started : (start event state).Consistent descriptor event :=
    consistent_of_decode decoded state
  have unread : (start event state).event.Faithful answer := by
    obtain ⟨raws, -, built⟩ := EventDecoder.exists_raw_of_decode decoded
    rw [built]
    exact DecodedEvent.faithful_ofRaw answer _ raws
  have laidOut : event.LaidOut descriptor := started.laidOut
  have same : event.SameRaw ((start event state).run decoder calls).event :=
    (consistent_run started calls).same
  obtain ⟨last, next, read, -⟩ :=
    DecodedEvent.get_of_steady steady (faithful_run steady unread calls) field now
  rw [same.steadyValue_eq, laidOut.steadyValue_eq found bound] at read
  exact ⟨last, next, read⟩

end Session

end ContractEvents
