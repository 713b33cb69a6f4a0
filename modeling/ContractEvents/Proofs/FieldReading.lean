/-
Module: ContractEvents.Proofs.FieldReading
Purpose: Reading the fields of a decoded event, once or many times and in any order.
Main exports: FieldReader.outcome, DecodedEvent.FieldAt, DecodedEvent.Conforming,
  DecodedEvent.mapM_get_of_conforming
-/
import ContractEvents.Proofs.DecodingStages

namespace ContractEvents

/-!
Reading a field changes the event, which keeps the native value.  With fixed answers to values,
what a read leaves intact is that every slot holds a raw value whose answer the type of the field
accepts, and keeps that answer or none.  From then on every read of a field succeeds.
-/

variable {σ α β : Type} {event after : DecodedEvent} {state next : σ}

/-- What a reader gives on an event, with the event and the decoder state that it leaves. -/
def FieldReader.outcome (reader : FieldReader σ α) (event : DecodedEvent) (state : σ) :
    (Except FieldError α × DecodedEvent) × σ :=
  (reader.run.run event).run state

/-- A reader that gives a value is followed by the reader that the value leads to. -/
theorem FieldReader.outcome_bind {reader : FieldReader σ α} {value : α}
    (read : reader.outcome event state = ((.ok value, after), next))
    (following : α → FieldReader σ β) :
    FieldReader.outcome (reader >>= following) event state =
      (following value).outcome after next := by
  rw [FieldReader.outcome] at read
  rw [FieldReader.outcome, ExceptT.run_bind, StateT.run_bind, StateT.run_bind, read]
  rfl

/-- A step of the decoder alone leaves the event as it is. -/
theorem FieldReader.outcome_lift {action : StateM σ α} {value : α}
    (ran : action.run state = (value, next)) (event : DecodedEvent) :
    FieldReader.outcome (liftM action) event state = ((.ok value, event), next) := by
  have unfolded : FieldReader.outcome (liftM action) event state =
      ((.ok (action.run state).1, event), (action.run state).2) := rfl
  rw [unfolded, ran]

namespace DecodedEvent

/-- A field name leads to a slot, which holds a raw value and has a native type. -/
structure FieldAt (event : DecodedEvent) (field : String) (slot : Nat) (held : FieldSlot)
    (expected : NativeType) : Prop where
  led : event.layout.slot? field = some slot
  slotAt : event.slots[slot]? = some held
  typeAt : event.layout.types[slot]? = some expected

variable {decoder : ValueDecoder σ} {field : String} {slot : Nat} {held : FieldSlot}
  {expected : NativeType} {value : NativeValue}

theorem outcome_getThe (event : DecodedEvent) (state : σ) :
    FieldReader.outcome (getThe DecodedEvent) event state = ((.ok event, event), state) := rfl

/-- A field that has been read gives the value that it keeps. -/
theorem get_of_cached (fieldAt : event.FieldAt field slot held expected)
    (cached : held.cached = some value) (state : σ) :
    (get decoder field).outcome event state = ((.ok value, event), state) := by
  simp only [get]
  rw [FieldReader.outcome_bind (outcome_getThe event state)]
  simp only [fieldAt.led, fieldAt.slotAt, fieldAt.typeAt, cached]
  rfl

/-- A field that has not been read takes one answer and keeps it. -/
theorem get_of_fresh (fieldAt : event.FieldAt field slot held expected)
    (fresh : held.cached = none) (answered : (decoder held.raw).run state = (.ok value, next))
    (accepted : expected.accepts value = true) :
    (get decoder field).outcome event state = ((.ok value, event.store slot value), next) := by
  simp only [get]
  rw [FieldReader.outcome_bind (outcome_getThe event state)]
  simp only [fieldAt.led, fieldAt.slotAt, fieldAt.typeAt, fresh]
  rw [FieldReader.outcome_bind (FieldReader.outcome_lift answered event)]
  simp only [accepted]
  rfl

/-! ### Reads that succeed -/

/-- Two events differ at most in the native values that they keep. -/
structure SameRaw (event after : DecodedEvent) : Prop where
  layout : after.layout = event.layout
  raw : after.slots.map (·.raw) = event.slots.map (·.raw)

theorem SameRaw.refl (event : DecodedEvent) : SameRaw event event := ⟨rfl, rfl⟩

theorem SameRaw.trans {last : DecodedEvent} (first : SameRaw event after)
    (second : SameRaw after last) : SameRaw event last :=
  ⟨second.layout.trans first.layout, second.raw.trans first.raw⟩

theorem sameRaw_store (event : DecodedEvent) (slot : Nat) (value : NativeValue) :
    SameRaw event (event.store slot value) where
  layout := rfl
  raw := by
    apply List.ext_getElem?
    intro other
    simp only [store, List.getElem?_map, List.getElem?_modify]
    by_cases same : slot = other
    · cases event.slots[other]? <;> simp [same]
    · cases event.slots[other]? <;> simp [same]

theorem raw?_eq_getElem? (event : DecodedEvent) (field : String) :
    event.raw? field =
      (event.layout.slot? field).bind fun slot => (event.slots.map (·.raw))[slot]? := by
  cases led : event.layout.slot? field <;> simp [raw?, slot?, led]

theorem SameRaw.raw?_eq (same : SameRaw event after) (field : String) :
    after.raw? field = event.raw? field := by
  rw [raw?_eq_getElem?, raw?_eq_getElem?, same.layout, same.raw]

/-- Every slot holds a raw value whose answer the type of its field accepts, and keeps no other
native value than that answer. -/
def Conforming (answer : Answers) (event : DecodedEvent) : Prop :=
  ∀ (slot : Nat) (held : FieldSlot), event.slots[slot]? = some held →
    ∃ expected native, event.layout.types[slot]? = some expected ∧
      answer held.raw = .ok native ∧ expected.accepts native = true ∧
      ∀ kept, held.cached = some kept → kept = native

variable {answer : Answers}

/-- Keeping the answer to a slot leaves an event conforming. -/
theorem conforming_store (conforming : event.Conforming answer)
    (slotAt : event.slots[slot]? = some held) (answered : answer held.raw = .ok value) :
    (event.store slot value).Conforming answer := by
  intro other now nowAt
  simp only [store, List.getElem?_modify] at nowAt
  by_cases same : slot = other
  · subst other
    obtain ⟨expected, native, typeAt, answered', accepted, -⟩ := conforming slot held slotAt
    obtain rfl : value = native := Except.ok.inj (answered.symm.trans answered')
    rw [slotAt] at nowAt
    obtain rfl : { held with cached := some value } = now := by simpa using nowAt
    refine ⟨expected, value, typeAt, answered, accepted, ?_⟩
    rintro kept ⟨rfl⟩
    rfl
  · exact conforming other now (by simpa [same] using nowAt)

/-- A field of a conforming event reads as the answer to its raw value. -/
theorem get_of_conforming (conforming : event.Conforming answer) {raw : Value}
    (bound : event.raw? field = some raw) (state : σ) :
    ∃ native after, answer raw = .ok native ∧
      (get (.ofFunction answer) field).outcome event state = ((.ok native, after), state) ∧
      after.Conforming answer ∧ SameRaw event after := by
  obtain ⟨held, found, rfl⟩ := Option.map_eq_some_iff.mp bound
  obtain ⟨slot, led, slotAt⟩ := Option.bind_eq_some_iff.mp found
  obtain ⟨expected, native, typeAt, answered, accepted, kept⟩ := conforming slot held slotAt
  have fieldAt : event.FieldAt field slot held expected := ⟨led, slotAt, typeAt⟩
  cases cached : held.cached with
  | some value =>
      obtain rfl := kept value cached
      exact ⟨value, event, answered, get_of_cached fieldAt cached state, conforming,
        SameRaw.refl event⟩
  | none =>
      have call : (ValueDecoder.ofFunction answer held.raw).run state = (.ok native, state) := by
        rw [ValueDecoder.ofFunction_apply, answered]
        rfl
      exact ⟨native, event.store slot native, answered, get_of_fresh fieldAt cached call accepted,
        conforming_store conforming slotAt answered, sameRaw_store event slot native⟩

/-- Reads of a conforming event, however many and in whichever order, all succeed. -/
theorem mapM_get_of_conforming {κ : Type} {name : κ → String} {raw : κ → Value} (asked : List κ)
    (conforming : event.Conforming answer)
    (bound : ∀ ask ∈ asked, event.raw? (name ask) = some (raw ask)) (state : σ) :
    ∃ natives after,
      FieldReader.outcome (asked.mapM fun ask => get (.ofFunction answer) (name ask)) event state =
          ((.ok natives, after), state) ∧
        natives.map .ok = asked.map fun ask => answer (raw ask) := by
  induction asked generalizing event with
  | nil => exact ⟨[], event, rfl, rfl⟩
  | cons ask asked inductionHypothesis =>
      obtain ⟨native, middle, answered, read, conforming, same⟩ :=
        get_of_conforming conforming (bound ask List.mem_cons_self) state
      obtain ⟨natives, after, readOthers, answeredOthers⟩ :=
        inductionHypothesis conforming fun other member => by
          rw [same.raw?_eq]
          exact bound other (List.mem_cons_of_mem _ member)
      refine ⟨native :: natives, after, ?_, ?_⟩
      · rw [List.mapM_cons, FieldReader.outcome_bind read, FieldReader.outcome_bind readOthers]
        rfl
      · rw [List.map_cons, List.map_cons, answered, answeredOthers]

end DecodedEvent

end ContractEvents
