/-
Module: ContractEvents.Proofs.FieldCaching
Purpose: What reads of fields do to an event and its cache, whatever the value decoder answers.
Main exports: EventDecoder.exists_raw_of_decode, DecodedEvent.LaidOut, DecodedEvent.Reads,
  DecodedEvent.exists_readOnce_get, DecodedEvent.exists_reads_membersOf
-/
import ContractEvents.Proofs.BindingExactness
import ContractEvents.Proofs.FieldReading
import ContractEvents.Proofs.Outcomes

namespace ContractEvents

/-!
A value decoder may fail, recover, or answer differently each time.  What a read leaves behind does
not hang on that: raw values stay as they are, a native value that is kept stays kept, and no other
field is kept than one that was read.  A read of one field and a read of all of them differ only in
how many fields they go through in front of the first failure.
-/

variable {σ : Type} {descriptor : EventDescriptor} {record : EventRecord}

namespace EventDecoder

/-! ### The slots of an event, whatever the value decoder does -/

theorem length_bindIfFree (bound : Bound) (slot : Nat) (value : Value) :
    (bindIfFree bound slot value).length = bound.length := by
  unfold bindIfFree
  split
  · rw [List.length_set]
  · rfl

theorem length_bindEntries (values : ValueDecoder σ) (index : SlotIndex) (bound : Bound)
    (entries : List (Value × Value)) (state : σ) :
    ((bindEntries values index bound entries).run state).1.length = bound.length := by
  induction entries generalizing bound state with
  | nil => rfl
  | cons entry entries inductionHypothesis =>
      obtain ⟨key, value⟩ := entry
      rw [bindEntries, StateT.run_bind]
      rcases (values key).run state with ⟨answer, next⟩
      refine (inductionHypothesis _ next).trans ?_
      cases answer with
      | error error => rfl
      | ok native =>
          cases led : index.lookup (keyName native) with
          | none => simp [led]
          | some slot => simp [led, length_bindIfFree]

theorem length_boundFields (values : ValueDecoder σ) (state : σ) :
    (((compile descriptor).boundFields values record).run state).1.length =
      descriptor.fields.length := by
  have free : ((compile descriptor).descriptor.fields.map fun _ => (none : Option Value)).length =
      descriptor.fields.length := List.length_map _
  unfold boundFields bindPayload
  split
  · rw [length_bindEntries, length_bindInOrder, free]
  · exact (length_bindInOrder ..).trans ((length_bindInOrder ..).trans free)
  · exact (length_bindInOrder ..).trans ((length_bindInOrder ..).trans free)

/-- If no name is missing, no slot is free. -/
theorem none_free_of_missingNames {bound : Bound}
    (length : bound.length = descriptor.fields.length)
    (missing : (compile descriptor).missingNames bound = []) :
    ∀ slot : Nat, bound[slot]? ≠ some none := by
  have inside : ∀ slot ∈ unboundSlots bound, slot < descriptor.fields.length := by
    intro slot member
    obtain ⟨inside, -⟩ := List.getElem?_eq_some_iff.mp (mem_unboundSlots.mp member)
    rwa [← length]
  have names := map_some_namesAt inside
  rw [← missingNames_compile, missing, List.map_nil] at names
  exact unboundSlots_eq_nil_iff.mp (List.map_eq_nil_iff.mp names.symm)

/-- A decoded event holds one raw value for every declared field, and none has been decoded. -/
theorem exists_raw_of_decode {values : ValueDecoder σ} {before after : σ} {event : DecodedEvent}
    (decoded : ((compile descriptor).decode values record).run.run before = (.ok event, after)) :
    ∃ raw : List Value, raw.length = descriptor.fields.length ∧
      event = DecodedEvent.ofRaw (compile descriptor).layout raw := by
  obtain ⟨_, checked, -, decoded⟩ := run_bind_eq_ok_iff.mp decoded
  obtain ⟨_, shaped, -, decoded⟩ := run_bind_eq_ok_iff.mp decoded
  obtain ⟨raw, last, bindsAll, ⟨⟩⟩ := run_bind_eq_ok_iff.mp decoded
  refine ⟨raw, ?_, rfl⟩
  obtain ⟨bound, _, ran, flattened⟩ := run_bind_eq_ok_iff.mp bindsAll
  have length : bound.length = descriptor.fields.length := by
    cases ran
    exact length_boundFields values shaped
  by_cases missing : (compile descriptor).missingNames bound = []
  · simp only [missing] at flattened
    cases flattened
    have kept := congrArg List.length
      (map_some_filterMap (none_free_of_missingNames length missing))
    rwa [List.length_map, length] at kept
  · rw [← List.isEmpty_iff, Bool.not_eq_true] at missing
    simp only [missing] at flattened
    cases flattened

end EventDecoder

namespace FieldError

/-- The field that an error is about. -/
def field : FieldError → String
  | .unknownField _ field => field
  | .decode field _ => field
  | .typeMismatch field _ _ => field

end FieldError

/-- A reader that fails is followed by nothing. -/
theorem FieldReader.outcome_bind_error {α β : Type} {reader : FieldReader σ α}
    {event after : DecodedEvent} {state next : σ} {error : FieldError}
    (failed : reader.outcome event state = ((.error error, after), next))
    (following : α → FieldReader σ β) :
    FieldReader.outcome (reader >>= following) event state = ((.error error, after), next) := by
  rw [FieldReader.outcome] at failed
  rw [FieldReader.outcome, ExceptT.run_bind, StateT.run_bind, StateT.run_bind, failed]
  rfl

namespace DecodedEvent

variable {decoder : ValueDecoder σ} {event after : DecodedEvent} {state next : σ} {field : String}
  {slot : Nat} {held : FieldSlot} {expected : NativeType} {value : NativeValue}

/-! ### One read -/

theorem get_of_unled (unled : event.layout.slot? field = none) (state : σ) :
    (get decoder field).outcome event state =
      ((.error (.unknownField event.name field), event), state) := by
  simp only [get]
  rw [FieldReader.outcome_bind (outcome_getThe event state)]
  simp only [unled]
  rfl

/-- A field whose raw value the decoder refuses stays as it is. -/
theorem get_of_refused {fault : ValueError} (fieldAt : event.FieldAt field slot held expected)
    (fresh : held.cached = none) (answered : (decoder held.raw).run state = (.error fault, next)) :
    (get decoder field).outcome event state = ((.error (.decode field fault), event), next) := by
  simp only [get]
  rw [FieldReader.outcome_bind (outcome_getThe event state)]
  simp only [fieldAt.led, fieldAt.slotAt, fieldAt.typeAt, fresh]
  rw [FieldReader.outcome_bind (FieldReader.outcome_lift answered event)]
  rfl

/-- An answer that the type of the field does not accept is not kept. -/
theorem get_of_mismatch (fieldAt : event.FieldAt field slot held expected)
    (fresh : held.cached = none) (answered : (decoder held.raw).run state = (.ok value, next))
    (mismatch : expected.accepts value = false) :
    (get decoder field).outcome event state =
      ((.error (.typeMismatch field expected value.kind), event), next) := by
  simp only [get]
  rw [FieldReader.outcome_bind (outcome_getThe event state)]
  simp only [fieldAt.led, fieldAt.slotAt, fieldAt.typeAt, fresh]
  rw [FieldReader.outcome_bind (FieldReader.outcome_lift answered event)]
  simp only [mismatch]
  rfl

/-! ### The cache -/

/-- The native value that a field keeps. -/
def cached? (event : DecodedEvent) (field : String) : Option NativeValue :=
  (event.slot? field).bind (·.cached)

theorem isMaterialized_eq (event : DecodedEvent) (field : String) :
    event.isMaterialized field = (event.cached? field).isSome := by
  rw [isMaterialized, cached?]
  cases event.slot? field <;> rfl

theorem cached?_of_fieldAt (fieldAt : event.FieldAt field slot held expected) :
    event.cached? field = held.cached := by
  rw [cached?, slot?, fieldAt.led, Option.bind_some, fieldAt.slotAt, Option.bind_some]

theorem raw?_of_fieldAt (fieldAt : event.FieldAt field slot held expected) :
    event.raw? field = some held.raw := by
  rw [raw?, slot?, fieldAt.led, Option.bind_some, fieldAt.slotAt, Option.map_some]

/-- An event has the layout and as many slots as a descriptor asks for. -/
structure LaidOut (descriptor : EventDescriptor) (event : DecodedEvent) : Prop where
  layout : event.layout = (EventDecoder.compile descriptor).layout
  length : event.slots.length = descriptor.fields.length

theorem SameRaw.laidOut (same : SameRaw event after) (laidOut : event.LaidOut descriptor) :
    after.LaidOut descriptor where
  layout := same.layout.trans laidOut.layout
  length := by
    have lengths := congrArg List.length same.raw
    rw [List.length_map, List.length_map] at lengths
    rw [lengths, laidOut.length]

theorem laidOut_ofRaw {raw : List Value} (length : raw.length = descriptor.fields.length) :
    (ofRaw (EventDecoder.compile descriptor).layout raw).LaidOut descriptor where
  layout := rfl
  length := by rw [ofRaw, List.length_map, length]

namespace LaidOut

theorem fieldNames_eq (laidOut : event.LaidOut descriptor) :
    event.fieldNames = descriptor.fields.map (·.name) := by
  rw [fieldNames, laidOut.layout]
  rfl

theorem slot?_eq (laidOut : event.LaidOut descriptor) (field : String) :
    event.layout.slot? field = descriptor.fields.findIdx? (·.name == field) := by
  rw [laidOut.layout, FieldLayout.slot?, EventDecoder.lookup_index_compile]

theorem unled (laidOut : event.LaidOut descriptor)
    (undeclared : field ∉ descriptor.fields.map (·.name)) : event.layout.slot? field = none := by
  rw [laidOut.slot?_eq, List.findIdx?_eq_none_iff]
  intro declared member
  have other : declared.name ≠ field := by
    rintro rfl
    exact undeclared (List.mem_map_of_mem member)
  simpa using other

/-- A slot that a name leads to holds a field of that name. -/
theorem exists_declared (laidOut : event.LaidOut descriptor)
    (led : event.layout.slot? field = some slot) :
    ∃ declared held, descriptor.fields[slot]? = some declared ∧ declared.name = field ∧
      descriptor.field? field = some declared ∧
      event.FieldAt field slot held (mapType declared.type) := by
  have found := led
  rw [laidOut.slot?_eq] at found
  obtain ⟨inside, here, first⟩ := List.findIdx?_eq_some_iff_getElem.mp found
  have inSlots : slot < event.slots.length := laidOut.length ▸ inside
  refine ⟨descriptor.fields[slot], event.slots[slot], List.getElem?_eq_getElem inside,
    by simpa using here, ?_, led, List.getElem?_eq_getElem inSlots, ?_⟩
  · rw [EventDescriptor.field?, List.find?_eq_some_iff_getElem]
    exact ⟨here, slot, inside, rfl, fun earlier before => by simpa using first earlier before⟩
  · rw [laidOut.layout]
    simp [EventDecoder.compile, inside]

/-- Two names do not lead to one slot. -/
theorem slot?_injective (laidOut : event.LaidOut descriptor) {other : String}
    (led : event.layout.slot? field = some slot) (ledOther : event.layout.slot? other = some slot) :
    field = other := by
  obtain ⟨declared, -, fieldAt, rfl, -⟩ := laidOut.exists_declared led
  obtain ⟨declaredOther, -, fieldAtOther, rfl, -⟩ := laidOut.exists_declared ledOther
  rw [fieldAt, Option.some.injEq] at fieldAtOther
  rw [fieldAtOther]

theorem exists_fieldAt (laidOut : event.LaidOut descriptor)
    (declared : field ∈ descriptor.fields.map (·.name)) :
    ∃ slot held first, event.FieldAt field slot held (mapType first.type) ∧
      descriptor.fields[slot]? = some first ∧ descriptor.field? field = some first := by
  cases led : event.layout.slot? field with
  | none =>
      obtain ⟨entry, member, rfl⟩ := List.mem_map.mp declared
      rw [laidOut.slot?_eq, List.findIdx?_eq_none_iff] at led
      simpa using led entry member
  | some slot =>
      obtain ⟨first, held, firstAt, -, found, fieldAt⟩ := laidOut.exists_declared led
      exact ⟨slot, held, first, fieldAt, firstAt, found⟩

end LaidOut

/-- A field that is kept is given from then on, and the decoder is not asked. -/
theorem get_of_kept (laidOut : event.LaidOut descriptor) (kept : event.cached? field = some value)
    (decoder : ValueDecoder σ) (state : σ) :
    (get decoder field).outcome event state = ((.ok value, event), state) := by
  obtain ⟨held, found, cached⟩ := Option.bind_eq_some_iff.mp kept
  obtain ⟨slot, led, slotAt⟩ := Option.bind_eq_some_iff.mp found
  obtain ⟨declared, there, -, -, -, fieldAt⟩ := laidOut.exists_declared led
  obtain rfl : held = there := Option.some.inj (slotAt.symm.trans fieldAt.slotAt)
  exact get_of_cached fieldAt cached state

/-- Every native value that a slot keeps is accepted by the native type of its field. -/
def Accepting (descriptor : EventDescriptor) (event : DecodedEvent) : Prop :=
  ∀ (slot : Nat) (held : FieldSlot) (value : NativeValue), event.slots[slot]? = some held →
    held.cached = some value →
      ∃ declared, descriptor.fields[slot]? = some declared ∧
        (mapType declared.type).accepts value = true

theorem accepting_store {declared : EventField} (accepting : event.Accepting descriptor)
    (declaredAt : descriptor.fields[slot]? = some declared)
    (accepted : (mapType declared.type).accepts value = true) :
    (event.store slot value).Accepting descriptor := by
  intro other now kept nowAt keptNow
  simp only [store, List.getElem?_modify] at nowAt
  by_cases same : slot = other
  · subst other
    obtain ⟨before, -, rfl⟩ : ∃ before, event.slots[slot]? = some before ∧
        { before with cached := some value } = now := by simpa using nowAt
    cases keptNow
    exact ⟨declared, declaredAt, accepted⟩
  · exact accepting other now kept (by simpa [same] using nowAt) keptNow

/-- Keeping a value of a field changes what that field keeps, and no other one. -/
theorem cached?_store (laidOut : event.LaidOut descriptor)
    (fieldAt : event.FieldAt field slot held expected) (other : String) :
    (event.store slot value).cached? other =
      if other = field then some value else event.cached? other := by
  have layout : (event.store slot value).layout = event.layout := rfl
  by_cases same : other = field
  · subst other
    simp [cached?, slot?, fieldAt.led, store, fieldAt.slotAt]
  · rw [if_neg same, cached?, cached?, slot?, slot?, layout]
    cases led : event.layout.slot? other with
    | none => rfl
    | some otherSlot =>
        have elsewhere : slot ≠ otherSlot := by
          rintro rfl
          exact same (laidOut.slot?_injective led fieldAt.led)
        simp [store, elsewhere]

/-- The fields that a read of names goes through: all of them, or those in front of the one that
fails. -/
def readsOf {α : Type} (names : List String) : Except FieldError α → List String
  | .ok _ => names
  | .error error => names.takeWhile (· ≠ error.field)

/-- An event has become another one by reads of fields that succeeded. -/
structure Reads (event after : DecodedEvent) (fields : List String) : Prop where
  same : SameRaw event after
  kept : ∀ field value, event.cached? field = some value → after.cached? field = some value
  added : ∀ field, (after.cached? field).isSome = true ↔
    (event.cached? field).isSome = true ∨ field ∈ fields

namespace Reads

theorem refl (event : DecodedEvent) : Reads event event [] where
  same := SameRaw.refl event
  kept := fun _ _ kept => kept
  added := by simp

theorem trans {last : DecodedEvent} {fields others : List String}
    (first : Reads event after fields) (second : Reads after last others) :
    Reads event last (fields ++ others) where
  same := first.same.trans second.same
  kept := fun field value kept => second.kept field value (first.kept field value kept)
  added := by
    intro field
    rw [second.added, first.added, List.mem_append, or_assoc]

/-- A field that was not read keeps what it kept. -/
theorem cached?_eq {fields : List String} (reads : Reads event after fields)
    (outside : field ∉ fields) : after.cached? field = event.cached? field := by
  cases before : event.cached? field with
  | some value => exact reads.kept field value before
  | none =>
      have added := reads.added field
      rw [before] at added
      cases now : after.cached? field with
      | none => rfl
      | some value =>
          rw [now] at added
          rcases added.mp rfl with impossible | read
          · cases impossible
          · exact absurd read outside

end Reads

/-- A field that is kept has been read. -/
theorem reads_of_cached (cached : event.cached? field = some value) : Reads event event [field] where
  same := SameRaw.refl event
  kept := fun _ _ kept => kept
  added := by
    intro other
    rw [List.mem_singleton]
    constructor
    · exact .inl
    · rintro (kept | rfl)
      · exact kept
      · rw [cached]
        rfl

theorem reads_store (laidOut : event.LaidOut descriptor)
    (fieldAt : event.FieldAt field slot held expected) (fresh : held.cached = none) :
    Reads event (event.store slot value) [field] where
  same := sameRaw_store event slot value
  kept := by
    intro other kept keptBefore
    rw [cached?_store laidOut fieldAt]
    split
    · rename_i same
      rw [same, cached?_of_fieldAt fieldAt, fresh] at keptBefore
      cases keptBefore
    · exact keptBefore
  added := by
    intro other
    rw [cached?_store laidOut fieldAt, List.mem_singleton]
    split
    · rename_i same
      simp [same]
    · rename_i other_ne
      simp [other_ne]

theorem readsOf_error {α : Type} (names : List String) {error : FieldError}
    (about : error.field = field) :
    readsOf (field :: names) (.error error : Except FieldError α) = [] := by
  simp [readsOf, about]

/-- One read of a field: it succeeds and the field keeps what it gives, or it fails, for that field,
and leaves the event as it is. -/
structure ReadOnce (descriptor : EventDescriptor) (event : DecodedEvent) (field : String)
    (outcome : Except FieldError NativeValue) (after : DecodedEvent) : Prop where
  reads : Reads event after (readsOf [field] outcome)
  accepting : after.Accepting descriptor
  keeps : ∀ value, outcome = .ok value → after.cached? field = some value
  fails : ∀ error, outcome = .error error →
    error.field = field ∧ event.cached? field = none ∧ after = event

theorem readOnce_of_failed {error : FieldError} (accepting : event.Accepting descriptor)
    (about : error.field = field) (fresh : event.cached? field = none) :
    ReadOnce descriptor event field (.error error) event where
  reads := by
    rw [readsOf_error [] about]
    exact Reads.refl event
  accepting := accepting
  keeps := by rintro value ⟨⟩
  fails := by
    rintro _ ⟨⟩
    exact ⟨about, fresh, rfl⟩

theorem exists_readOnce_get (decoder : ValueDecoder σ) (laidOut : event.LaidOut descriptor)
    (accepting : event.Accepting descriptor) (field : String) (state : σ) :
    ∃ outcome after next, (get decoder field).outcome event state = ((outcome, after), next) ∧
      ReadOnce descriptor event field outcome after := by
  by_cases declared : field ∈ descriptor.fields.map (·.name)
  · obtain ⟨slot, held, first, fieldAt, firstAt, -⟩ := laidOut.exists_fieldAt declared
    have kept := cached?_of_fieldAt fieldAt
    cases cached : held.cached with
    | some value =>
        rw [cached] at kept
        refine ⟨.ok value, event, state, get_of_cached fieldAt cached state,
          reads_of_cached kept, accepting, ?_, ?_⟩
        · rintro _ ⟨⟩
          exact kept
        · rintro error ⟨⟩
    | none =>
        rw [cached] at kept
        rcases answered : (decoder held.raw).run state with ⟨fault | value, next⟩
        · exact ⟨_, event, next, get_of_refused fieldAt cached answered,
            readOnce_of_failed accepting rfl kept⟩
        · cases accepted : (mapType first.type).accepts value with
          | false =>
              exact ⟨_, event, next, get_of_mismatch fieldAt cached answered accepted,
                readOnce_of_failed accepting rfl kept⟩
          | true =>
              refine ⟨.ok value, event.store slot value, next,
                get_of_fresh fieldAt cached answered accepted,
                reads_store laidOut fieldAt cached, accepting_store accepting firstAt accepted,
                ?_, ?_⟩
              · rintro _ ⟨⟩
                rw [cached?_store laidOut fieldAt, if_pos rfl]
              · rintro error ⟨⟩
  · have unled := laidOut.unled declared
    have fresh : event.cached? field = none := by
      rw [cached?, slot?, unled, Option.bind_none, Option.bind_none]
    exact ⟨_, event, state, get_of_unled unled state, readOnce_of_failed accepting rfl fresh⟩

/-- Reads of names in order go on up to the first that fails. -/
theorem exists_reads_membersOf (decoder : ValueDecoder σ) (names : List String)
    (laidOut : event.LaidOut descriptor) (accepting : event.Accepting descriptor) (state : σ) :
    ∃ outcome after next,
      (membersOf decoder names).outcome event state = ((outcome, after), next) ∧
        Reads event after (readsOf names outcome) ∧ after.Accepting descriptor ∧
        ∀ error, outcome = .error error → event.cached? error.field = none := by
  induction names generalizing event state with
  | nil =>
      refine ⟨.ok [], event, state, rfl, Reads.refl event, accepting, ?_⟩
      rintro error ⟨⟩
  | cons name names inductionHypothesis =>
      obtain ⟨outcome, middle, next, ran, reads, acceptingMiddle, keeps, fails⟩ :=
        exists_readOnce_get decoder laidOut accepting name state
      rw [membersOf]
      cases outcome with
      | error error =>
          obtain ⟨about, fresh, rfl⟩ := fails error rfl
          refine ⟨.error error, middle, next, FieldReader.outcome_bind_error ran _, ?_,
            acceptingMiddle, ?_⟩
          · rw [readsOf_error names about]
            exact Reads.refl middle
          · rintro _ ⟨⟩
            rw [about, fresh]
      | ok value =>
          obtain ⟨outcome, after, last, ranOthers, readsOthers, acceptingAfter, failsOthers⟩ :=
            inductionHypothesis (reads.same.laidOut laidOut) acceptingMiddle next
          rw [FieldReader.outcome_bind ran]
          have both := reads.trans readsOthers
          cases outcome with
          | error error =>
              have fresh := failsOthers error rfl
              -- The name was kept when the others were read, so it is not the one that failed.
              have name_ne : name ≠ error.field := by
                intro same
                have kept := keeps value rfl
                rw [same, fresh] at kept
                cases kept
              refine ⟨.error error, after, last, FieldReader.outcome_bind_error ranOthers _, ?_,
                acceptingAfter, ?_⟩
              · have split : readsOf (name :: names)
                    (.error error : Except FieldError (List (String × Json))) =
                      name :: names.takeWhile (· ≠ error.field) := by
                  rw [readsOf, List.takeWhile_cons_of_pos (by simpa using name_ne)]
                rw [split]
                exact both
              · rintro _ ⟨⟩
                cases before : event.cached? error.field with
                | none => rfl
                | some kept =>
                    rw [reads.kept _ _ before] at fresh
                    cases fresh
          | ok members =>
              refine ⟨.ok ((name, value.toJson) :: members), after, last,
                FieldReader.outcome_bind ranOthers _, both, acceptingAfter, ?_⟩
              rintro error ⟨⟩

end DecodedEvent

end ContractEvents
