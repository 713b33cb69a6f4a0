/-
Module: ContractEvents.Proofs.ObjectReading
Purpose: How far the fields of an event are read for an object, what that leaves, and what it gives.
Main exports: FieldReader.Presents, DecodedEvent.FieldRead, DecodedEvent.ReadUpTo,
  DecodedEvent.ObjectRead, DecodedEvent.objectRead_toJson
-/
import ContractEvents.Proofs.DecoderCalls
import ContractEvents.Proofs.ReadingSessions
import ContractEvents.Proofs.RecordReading

namespace ContractEvents

/-!
An object reads the declared names in order, each by a read of its own, and the first read that
fails is the end.  What was read in front of it stays in the cache, so that a later attempt goes on
where this one stopped: the decoder is given nothing but the raw values of names that are not kept,
and of a name that comes twice only once.
-/

variable {σ τ α β : Type}

namespace FieldReader

/-- A reader ends on an event with an outcome.  The same reader with the recording decoder ends
alike, and records exactly the values of a list. -/
def Presents (reader : {τ : Type} → ValueDecoder τ → FieldReader τ α) (decoder : ValueDecoder σ)
    (event : DecodedEvent) (state : σ) (presented : List Value) (outcome : Except FieldError α)
    (after : DecodedEvent) (next : σ) : Prop :=
  ContractEvents.Presents ((reader decoder).run.run event)
    ((reader decoder.recording).run.run event) state presented (outcome, after) next

namespace Presents

variable {reader : {τ : Type} → ValueDecoder τ → FieldReader τ α}
  {following : {τ : Type} → ValueDecoder τ → α → FieldReader τ β} {decoder : ValueDecoder σ}
  {event middle after : DecodedEvent} {state between next : σ} {presented others : List Value}

/-- A reader that does not ask the decoder gives it nothing. -/
theorem of_silent {outcome : Except FieldError α}
    (ran : ∀ {τ : Type} (any : ValueDecoder τ) (now : τ),
      (reader any).outcome event now = ((outcome, after), now)) :
    Presents reader decoder event state [] outcome after state where
  ran := ran decoder state
  recorded := by
    intro seen
    rw [List.append_nil]
    exact ran decoder.recording (state, seen)

/-- A reader that asks for one value gives the decoder that value. -/
theorem of_answered {raw : Value} {answer : Except ValueError NativeValue}
    {outcome : Except FieldError α} (answered : (decoder raw).run state = (answer, next))
    (ran : ∀ {τ : Type} {any : ValueDecoder τ} {now later : τ},
      (any raw).run now = (answer, later) →
        (reader any).outcome event now = ((outcome, after), later)) :
    Presents reader decoder event state [raw] outcome after next where
  ran := ran answered
  recorded := fun seen => ran (Session.run_recording answered seen)

theorem bind {value : α} {outcome : Except FieldError β}
    (first : Presents reader decoder event state presented (.ok value) middle between)
    (second : Presents (following · value) decoder middle between others outcome after next) :
    Presents (fun decoder => reader decoder >>= following decoder) decoder event state
      (presented ++ others) outcome after next where
  ran := (outcome_bind first.ran _).trans second.ran
  recorded := by
    intro seen
    rw [← List.append_assoc]
    exact (outcome_bind (first.recorded seen) _).trans (second.recorded _)

theorem error_bind {error : FieldError}
    (failed : Presents reader decoder event state presented (.error error) after next) :
    Presents (fun decoder => reader decoder >>= following decoder) decoder event state presented
      (.error error) after next where
  ran := outcome_bind_error failed.ran _
  recorded := fun seen => outcome_bind_error (failed.recorded seen) _

/-- What is made of a result in the end is no matter of the decoder. -/
theorem bind_pure {outcome : Except FieldError α}
    (ran : Presents reader decoder event state presented outcome after next) (make : α → β) :
    Presents (fun decoder => reader decoder >>= fun result => pure (make result)) decoder event
      state presented (make <$> outcome) after next := by
  cases outcome with
  | error error => exact ran.error_bind
  | ok value =>
      have made : Presents (fun {τ} _ => (pure (make value) : FieldReader τ β)) decoder after next
          [] (.ok (make value)) after next := of_silent fun _ _ => rfl
      rw [← List.append_nil presented]
      exact ran.bind made

end Presents

end FieldReader

namespace DecodedEvent

variable {descriptor : EventDescriptor} {decoder : ValueDecoder σ}
  {event middle after : DecodedEvent} {state between next : σ} {field : String}
  {names : List String} {values : List NativeValue} {presented : List Value}

/-! ### One read -/

/-- One read of a declared field, by what it gives to the decoder.  A field that is kept asks
nothing; any other asks for its raw value, and is kept or stays as it was. -/
inductive FieldRead (event : DecodedEvent) (field : String) :
    List Value → Except FieldError NativeValue → DecodedEvent → Prop where
  | kept {value : NativeValue} (cached : event.cached? field = some value) :
      FieldRead event field [] (.ok value) event
  | taken {raw : Value} {value : NativeValue} {after : DecodedEvent}
      (fresh : event.cached? field = none) (bound : event.raw? field = some raw)
      (same : SameRaw event after)
      (keeps : ∀ other, after.cached? other =
        if other = field then some value else event.cached? other) :
      FieldRead event field [raw] (.ok value) after
  | failed {raw : Value} {error : FieldError} (fresh : event.cached? field = none)
      (bound : event.raw? field = some raw) (about : error.field = field) :
      FieldRead event field [raw] (.error error) event

theorem exists_fieldRead_get (decoder : ValueDecoder σ) (laidOut : event.LaidOut descriptor)
    (declared : field ∈ descriptor.fields.map (·.name)) (state : σ) :
    ∃ presented outcome after next,
      FieldReader.Presents (get · field) decoder event state presented outcome after next ∧
        FieldRead event field presented outcome after := by
  obtain ⟨slot, held, first, fieldAt, -⟩ := laidOut.exists_fieldAt declared
  have kept := cached?_of_fieldAt fieldAt
  have bound := raw?_of_fieldAt fieldAt
  cases cached : held.cached with
  | some value =>
      refine ⟨[], .ok value, event, state, .of_silent ?_, .kept (kept.trans cached)⟩
      intro _ any now
      exact get_of_cached fieldAt cached now
  | none =>
      have fresh := kept.trans cached
      rcases answered : (decoder held.raw).run state with ⟨fault | value, next⟩
      · refine ⟨[held.raw], .error (.decode field fault), event, next, .of_answered answered ?_,
          .failed fresh bound rfl⟩
        exact get_of_refused fieldAt cached
      · cases accepted : (mapType first.type).accepts value with
        | false =>
            refine ⟨[held.raw], .error (.typeMismatch field (mapType first.type) value.kind), event,
              next, .of_answered answered ?_, .failed fresh bound rfl⟩
            intro _ any now later call
            exact get_of_mismatch fieldAt cached call accepted
        | true =>
            refine ⟨[held.raw], .ok value, event.store slot value, next, .of_answered answered ?_,
              .taken fresh bound (sameRaw_store event slot value) (cached?_store laidOut fieldAt)⟩
            intro _ any now later call
            exact get_of_fresh fieldAt cached call accepted

/-! ### Reads that succeed -/

/-- Reads of names one after the other that all succeed, each on the event and the state that the
one in front of it left: what they give, and the values that they give to the decoder. -/
inductive GetsInOrder (decoder : ValueDecoder σ) : DecodedEvent → σ → List String →
    List NativeValue → List Value → DecodedEvent → σ → Prop where
  | done (event : DecodedEvent) (state : σ) : GetsInOrder decoder event state [] [] [] event state
  | next {event middle after : DecodedEvent} {state between next : σ} {field : String}
      {names : List String} {value : NativeValue} {values : List NativeValue}
      {presented others : List Value}
      (read : FieldReader.Presents (get · field) decoder event state presented (.ok value) middle
        between)
      (behind : GetsInOrder decoder middle between names values others after next) :
      GetsInOrder decoder event state (field :: names) (value :: values) (presented ++ others)
        after next

/-- The names of a list whose fields are not kept, each at its first place. -/
def unread (event : DecodedEvent) (names : List String) : List String :=
  (names.filter fun name => !event.isMaterialized name).eraseDups

theorem unread_cons_of_kept {value : NativeValue} (cached : event.cached? field = some value)
    (names : List String) : event.unread (field :: names) = event.unread names := by
  rw [unread, List.filter_cons_of_neg, unread]
  rw [isMaterialized_eq, cached]
  simp

theorem unread_cons_of_taken {value : NativeValue} (fresh : event.cached? field = none)
    (keeps : ∀ other, middle.cached? other =
      if other = field then some value else event.cached? other)
    (names : List String) : event.unread (field :: names) = field :: middle.unread names := by
  have unkept : (!event.isMaterialized field) = true := by
    rw [isMaterialized_eq, fresh]
    rfl
  -- Behind the field, what is not kept any more is just the field itself.
  have others : (fun name => (!name == field) && !event.isMaterialized name) =
      fun name => !middle.isMaterialized name := by
    funext name
    rw [isMaterialized_eq, isMaterialized_eq, keeps]
    by_cases same : name = field <;> simp [same]
  rw [unread, List.filter_cons, if_pos unkept, List.eraseDups_cons, List.filter_filter, others,
    unread]

theorem mem_unread {name : String} :
    name ∈ event.unread names ↔ name ∈ names ∧ event.cached? name = none := by
  rw [unread, List.mem_eraseDups, List.mem_filter, isMaterialized_eq]
  simp

theorem nodup_eraseDups (names : List String) : names.eraseDups.Nodup := by
  match names with
  | [] => exact List.nodup_nil
  | name :: names =>
      rw [List.eraseDups_cons, List.nodup_cons]
      constructor
      · simp [List.mem_eraseDups]
      · exact nodup_eraseDups _
termination_by names.length
decreasing_by exact Nat.lt_succ_of_le (List.length_filter_le _ _)

namespace FieldRead

variable {value : NativeValue}

theorem same (read : FieldRead event field presented (.ok value) middle) :
    SameRaw event middle := by
  cases read with
  | kept => exact SameRaw.refl event
  | taken _ _ same => exact same

/-- A field that has been read keeps what its read gave. -/
theorem cached (read : FieldRead event field presented (.ok value) middle) :
    middle.cached? field = some value := by
  cases read with
  | kept cached => exact cached
  | taken _ _ _ keeps => rw [keeps, if_pos rfl]

theorem cached?_eq (read : FieldRead event field presented (.ok value) middle) {other : String}
    (other_ne : other ≠ field) : middle.cached? other = event.cached? other := by
  cases read with
  | kept => rfl
  | taken _ _ _ keeps => rw [keeps, if_neg other_ne]

theorem keeps (read : FieldRead event field presented (.ok value) middle) {other : String}
    {held : NativeValue} (before : event.cached? other = some held) :
    middle.cached? other = some held := by
  cases read with
  | kept => exact before
  | taken fresh _ _ keeps =>
      have other_ne : other ≠ field := by
        rintro rfl
        rw [fresh] at before
        cases before
      rw [keeps, if_neg other_ne, before]

/-- The values that a read gives to the decoder are those of the names that it leaves read. -/
theorem presented_append (read : FieldRead event field presented (.ok value) middle)
    (names : List String) :
    (event.unread (field :: names)).map event.raw? =
      presented.map some ++ (middle.unread names).map event.raw? := by
  cases read with
  | kept cached => rw [unread_cons_of_kept cached, List.map_nil, List.nil_append]
  | taken fresh bound _ keeps =>
      rw [unread_cons_of_taken fresh keeps, List.map_cons, bound]
      rfl

end FieldRead

/-- Names have been read in order, all with success. -/
structure ReadUpTo (decoder : ValueDecoder σ) (event : DecodedEvent) (state : σ)
    (names : List String) (values : List NativeValue) (presented : List Value)
    (after : DecodedEvent) (next : σ) : Prop where
  inOrder : GetsInOrder decoder event state names values presented after next
  same : SameRaw event after
  /-- What was kept before is kept still. -/
  keeps : ∀ field value, event.cached? field = some value → after.cached? field = some value
  /-- Every name that was read keeps what its read gave. -/
  materialized : List.Forall₂ (fun name value => after.cached? name = some value) names values
  /-- A field that was not read is as it was. -/
  untouched : ∀ field ∉ names, after.cached? field = event.cached? field
  /-- The decoder was given the raw values of the names that were not kept, each once. -/
  presented : presented.map some = (event.unread names).map event.raw?

namespace ReadUpTo

theorem nil (decoder : ValueDecoder σ) (event : DecodedEvent) (state : σ) :
    ReadUpTo decoder event state [] [] [] event state where
  inOrder := .done event state
  same := SameRaw.refl event
  keeps := fun _ _ kept => kept
  materialized := .nil
  untouched := fun _ _ => rfl
  presented := rfl

theorem cons {value : NativeValue} {others : List Value}
    (ran : FieldReader.Presents (get · field) decoder event state presented (.ok value) middle
      between)
    (first : FieldRead event field presented (.ok value) middle)
    (behind : ReadUpTo decoder middle between names values others after next) :
    ReadUpTo decoder event state (field :: names) (value :: values) (presented ++ others) after
      next where
  inOrder := .next ran behind.inOrder
  same := first.same.trans behind.same
  keeps := by
    intro other held kept
    exact behind.keeps other held (first.keeps kept)
  materialized := .cons (behind.keeps field value first.cached) behind.materialized
  untouched := by
    intro other outside
    obtain ⟨other_ne, outside⟩ := not_or.mp (mt List.mem_cons.mpr outside)
    rw [behind.untouched other outside, first.cached?_eq other_ne]
  presented := by
    have raw : middle.raw? = event.raw? := funext first.same.raw?_eq
    rw [first.presented_append, List.map_append, behind.presented, raw]

theorem cached?_of_mem (read : ReadUpTo decoder event state names values presented after next)
    (member : field ∈ names) : ∃ value ∈ values, after.cached? field = some value := by
  have materialized := read.materialized
  clear read
  induction materialized with
  | nil => cases member
  | cons here behind inductionHypothesis =>
      rcases List.mem_cons.mp member with rfl | member
      · exact ⟨_, List.mem_cons_self, here⟩
      · obtain ⟨value, listed, kept⟩ := inductionHypothesis member
        exact ⟨value, List.mem_cons_of_mem _ listed, kept⟩

theorem not_mem_of_fresh (read : ReadUpTo decoder event state names values presented after next)
    (fresh : after.cached? field = none) : field ∉ names := by
  intro member
  obtain ⟨value, -, kept⟩ := read.cached?_of_mem member
  rw [fresh] at kept
  cases kept

/-- The members that reads give come from values that the event keeps. -/
theorem exists_kept_of_mem_zip
    (read : ReadUpTo decoder event state names values presented after next)
    {member : String × Json} (listed : member ∈ names.zip (values.map NativeValue.toJson)) :
    ∃ value, after.cached? member.1 = some value ∧ member.2 = value.toJson := by
  have materialized := read.materialized
  clear read
  induction materialized with
  | nil => cases listed
  | cons here behind inductionHypothesis =>
      rcases List.mem_cons.mp listed with rfl | listed
      · exact ⟨_, here, rfl⟩
      · exact inductionHypothesis listed

theorem map_fst_zip (read : ReadUpTo decoder event state names values presented after next) :
    (names.zip (values.map NativeValue.toJson)).map Prod.fst = names := by
  apply List.map_fst_zip
  rw [List.length_map, read.materialized.length_eq]

end ReadUpTo

/-! ### All names -/

/-- How reads of names in order end: they all succeed, or one fails, behind others that succeed. -/
inductive MembersRead (decoder : ValueDecoder σ) (event : DecodedEvent) (state : σ)
    (names : List String) : List Value → Except FieldError (List (String × Json)) →
      DecodedEvent → σ → Prop where
  | complete {values : List NativeValue} {presented : List Value} {after : DecodedEvent} {next : σ}
      (read : ReadUpTo decoder event state names values presented after next) :
      MembersRead decoder event state names presented
        (.ok (names.zip (values.map NativeValue.toJson))) after next
  | stopped {front behind : List String} {field : String} {values : List NativeValue}
      {presented : List Value} {raw : Value} {error : FieldError} {after : DecodedEvent}
      {between next : σ} (split : names = front ++ field :: behind)
      (read : ReadUpTo decoder event state front values presented after between)
      (fresh : after.cached? field = none) (bound : event.raw? field = some raw)
      (failed : FieldReader.Presents (get · field) decoder after between [raw] (.error error) after
        next)
      (about : error.field = field) :
      MembersRead decoder event state names (presented ++ [raw]) (.error error) after next

theorem exists_membersRead (decoder : ValueDecoder σ) (laidOut : event.LaidOut descriptor)
    (names : List String) (declared : ∀ name ∈ names, name ∈ descriptor.fields.map (·.name))
    (state : σ) :
    ∃ presented outcome after next,
      FieldReader.Presents (membersOf · names) decoder event state presented outcome after next ∧
        MembersRead decoder event state names presented outcome after next := by
  induction names generalizing event state with
  | nil =>
      refine ⟨[], .ok [], event, state, .of_silent ?_, .complete (.nil decoder event state)⟩
      intro _ any now
      rfl
  | cons name names inductionHypothesis =>
      obtain ⟨here, behind⟩ := List.forall_mem_cons.mp declared
      obtain ⟨presented, outcome, middle, between, ran, first⟩ :=
        exists_fieldRead_get decoder laidOut here state
      cases outcome with
      | error error =>
          cases first with
          | failed fresh bound about =>
              refine ⟨_, .error error, event, between, ran.error_bind, ?_⟩
              exact .stopped rfl (.nil decoder event state) fresh bound ran about
      | ok value =>
          obtain ⟨others, outcome, after, next, ranOthers, read⟩ :=
            inductionHypothesis (first.same.laidOut laidOut) behind between
          refine ⟨presented ++ others, _, after, next,
            ran.bind (ranOthers.bind_pure ((name, value.toJson) :: ·)), ?_⟩
          cases read with
          | complete read => exact .complete (.cons ran first read)
          | stopped split read fresh bound failed about =>
              rw [first.same.raw?_eq] at bound
              rw [← List.append_assoc]
              exact .stopped (congrArg (name :: ·) split) (.cons ran first read) fresh bound failed
                about

/-- Values are the raw values of names from a list, of each name once, and only of names that are
not kept. -/
def AsksOnce (event : DecodedEvent) (names : List String) (presented : List Value) : Prop :=
  ∃ asked : List String, asked.Nodup ∧ (∀ name ∈ asked, name ∈ names ∧ event.cached? name = none) ∧
    presented.map some = asked.map event.raw?

namespace MembersRead

variable {outcome : Except FieldError (List (String × Json))}

theorem asksOnce (read : MembersRead decoder event state names presented outcome after next) :
    event.AsksOnce names presented := by
  cases read with
  | complete read =>
      refine ⟨event.unread names, nodup_eraseDups _, ?_, read.presented⟩
      intro name member
      exact mem_unread.mp member
  | @stopped front behind field values presented raw error _ _ _ split read fresh bound =>
      have outside : field ∉ front := read.not_mem_of_fresh fresh
      refine ⟨event.unread front ++ [field], ?_, ?_, ?_⟩
      · rw [List.nodup_append]
        refine ⟨nodup_eraseDups _, List.pairwise_singleton _ field, ?_⟩
        intro name member last lastMember same
        rw [same, List.mem_singleton.mp lastMember] at member
        exact outside (mem_unread.mp member).1
      · intro name member
        rw [split]
        rcases List.mem_append.mp member with earlier | last
        · obtain ⟨named, unkept⟩ := mem_unread.mp earlier
          exact ⟨List.mem_append_left _ named, unkept⟩
        · obtain rfl := List.mem_singleton.mp last
          rw [← read.untouched name outside]
          exact ⟨List.mem_append_right _ List.mem_cons_self, fresh⟩
      · rw [List.map_append, List.map_append, read.presented, List.map_singleton,
          List.map_singleton, bound]

end MembersRead

/-- How an object of the declared names is read.  Either all are read, and the object has one member
for each name, which is what a read of the name gives from then on; or a read fails, behind others
that succeed, and its error is that of the object. -/
inductive ObjectRead (decoder : ValueDecoder σ) (event : DecodedEvent) (state : σ)
    (declared : List String) : List Value → Except FieldError Json → DecodedEvent → σ → Prop where
  | complete {values : List NativeValue} {presented : List Value} {members : List (String × Json)}
      {after : DecodedEvent} {next : σ}
      (read : ReadUpTo decoder event state declared values presented after next)
      (distinct : (members.map Prod.fst).Nodup)
      (named : ∀ name, name ∈ members.map Prod.fst ↔ name ∈ declared)
      (given : ∀ member ∈ members, ∃ value, member.2 = value.toJson ∧
        after.cached? member.1 = some value ∧
          ∀ {τ : Type} (any : ValueDecoder τ) (now : τ),
            (get any member.1).outcome after now = ((.ok value, after), now)) :
      ObjectRead decoder event state declared presented (.ok (.object members)) after next
  | stopped {front behind : List String} {field : String} {values : List NativeValue}
      {presented : List Value} {raw : Value} {error : FieldError} {after : DecodedEvent}
      {between next : σ} (split : declared = front ++ field :: behind) (outside : field ∉ front)
      (read : ReadUpTo decoder event state front values presented after between)
      (fresh : after.cached? field = none) (bound : event.raw? field = some raw)
      (failed : FieldReader.Presents (get · field) decoder after between [raw] (.error error) after
        next)
      (about : error.field = field) :
      ObjectRead decoder event state declared (presented ++ [raw]) (.error error) after next

theorem MembersRead.objectRead {outcome : Except FieldError (List (String × Json))}
    (laidOut : event.LaidOut descriptor)
    (read : MembersRead decoder event state (descriptor.fields.map (·.name)) presented outcome after
      next) :
    ObjectRead decoder event state (descriptor.fields.map (·.name)) presented
      (Json.ofMembers <$> outcome) after next := by
  cases read with
  | stopped split read fresh bound failed about =>
      exact .stopped split (read.not_mem_of_fresh fresh) read fresh bound failed about
  | @complete values _ _ _ read =>
      have alike : ∀ one ∈ (descriptor.fields.map (·.name)).zip (values.map NativeValue.toJson),
          ∀ two ∈ (descriptor.fields.map (·.name)).zip (values.map NativeValue.toJson),
            one.1 = two.1 → one = two := by
        intro one first two second same
        obtain ⟨value, kept, here⟩ := read.exists_kept_of_mem_zip first
        obtain ⟨other, keptOther, there⟩ := read.exists_kept_of_mem_zip second
        rw [same, keptOther, Option.some.injEq] at kept
        exact Prod.ext same (by rw [here, there, kept])
      have same_members := Json.mem_sortMembers_iff alike
      refine .complete read (Json.nodup_sortMembers _) ?_ ?_
      · intro name
        rw [List.mem_map]
        simp only [same_members]
        rw [← List.mem_map, read.map_fst_zip]
      · intro member held
        rw [same_members] at held
        obtain ⟨value, kept, made⟩ := read.exists_kept_of_mem_zip held
        refine ⟨value, made, kept, ?_⟩
        intro _ any now
        exact get_of_kept (read.same.laidOut laidOut) kept any now

theorem exists_objectRead (decoder : ValueDecoder σ) (laidOut : event.LaidOut descriptor)
    (state : σ) :
    ∃ presented outcome after next,
      FieldReader.Presents toJson decoder event state presented outcome after next ∧
        ObjectRead decoder event state (descriptor.fields.map (·.name)) presented outcome after
          next ∧
        event.AsksOnce (descriptor.fields.map (·.name)) presented := by
  obtain ⟨presented, outcome, after, next, ran, read⟩ :=
    exists_membersRead decoder laidOut (descriptor.fields.map (·.name)) (fun _ named => named) state
  rw [← laidOut.fieldNames_eq] at ran
  refine ⟨presented, Json.ofMembers <$> outcome, after, next, ⟨?_, ?_⟩, read.objectRead laidOut,
    read.asksOnce⟩
  · exact Session.outcome_toJson ran.ran
  · intro seen
    exact Session.outcome_toJson (ran.recorded seen)

/-- The object of an event of a record, whatever the event keeps and the decoder answers: how far
the declared names are read, and that a later attempt asks the decoder for nothing that is kept. -/
theorem objectRead_toJson {values : ValueDecoder τ} {record : EventRecord} {before decodedState : τ}
    {start : DecodedEvent}
    (decoded : ((EventDecoder.compile descriptor).decode values record).run.run before =
      (.ok start, decodedState))
    (same : SameRaw start event) (decoder : ValueDecoder σ) (state : σ) :
    ∃ presented outcome after next,
      FieldReader.Presents toJson decoder event state presented outcome after next ∧
        ObjectRead decoder event state (descriptor.fields.map (·.name)) presented outcome after
          next ∧
        SameRaw start after ∧ event.AsksOnce (descriptor.fields.map (·.name)) presented ∧
        ∀ {ρ : Type} (retry : ValueDecoder ρ) (now : ρ), ∃ again answer last later,
          FieldReader.Presents toJson retry after now again answer last later ∧
            after.AsksOnce (descriptor.fields.map (·.name)) again := by
  obtain ⟨raw, length, rfl⟩ := EventDecoder.exists_raw_of_decode decoded
  have laidOut : event.LaidOut descriptor := same.laidOut (laidOut_ofRaw length)
  obtain ⟨presented, outcome, after, next, ran, read, asks⟩ :=
    exists_objectRead decoder laidOut state
  have sameAfter : SameRaw event after := by
    cases read with
    | complete read => exact read.same
    | stopped _ _ read => exact read.same
  refine ⟨presented, outcome, after, next, ran, read, same.trans sameAfter, asks, ?_⟩
  intro ρ retry now
  obtain ⟨again, answer, last, later, ranAgain, -, asksAgain⟩ :=
    exists_objectRead retry (sameAfter.laidOut laidOut) now
  exact ⟨again, answer, last, later, ranAgain, asksAgain⟩

/-- A transfer with two topic fields of one name. -/
private def transfer : EventDescriptor where
  name := "transfer"
  prefixTopics := ["transfer"]
  fields := [⟨"to", .u32, .topicList, none⟩, ⟨"amount", .i128, .payload, none⟩,
    ⟨"to", .u32, .topicList, none⟩, ⟨"memo", .string, .topicList, none⟩]
  payloadShape := .singleValue

private def transferRecord : EventRecord where
  topics := [.symbol [0x74, 0x72, 0x61, 0x6E, 0x73, 0x66, 0x65, 0x72], .u32 7, .u32 8,
    .string [0x78]]
  payload := .i128 ⟨0, 5⟩

private def unreadTransfer : DecodedEvent :=
  .ofRaw (EventDecoder.compile transfer).layout [.u32 7, .i128 ⟨0, 5⟩, .u32 8, .string [0x78]]

private theorem transfer_decoded :
    ((EventDecoder.compile transfer).decode .scripted transferRecord).run.run
        ⟨[("I128", 1)], [], 0⟩ = (.ok unreadTransfer, ⟨[("I128", 1)], [], 1⟩) := rfl

/-- A transfer whose memo has been read, and whose amount fails once: the object stops at the
amount with the receiver kept, and the next attempt asks for the amount alone. -/
theorem objectRead_toJson_resumed :
    ∃ event presented outcome after next again answer last later,
      ((EventDecoder.compile transfer).decode .scripted transferRecord).run.run
          ⟨[("I128", 1)], [], 0⟩ = (.ok unreadTransfer, ⟨[("I128", 1)], [], 1⟩) ∧
        event = unreadTransfer.store 3 (.string "x") ∧ SameRaw unreadTransfer event ∧
        FieldReader.Presents toJson .scripted event ⟨[("I128", 1)], [], 1⟩ presented outcome after
          next ∧
        ObjectRead .scripted event ⟨[("I128", 1)], [], 1⟩ ["to", "amount", "to", "memo"] presented
          outcome after next ∧
        FieldReader.Presents toJson .scripted after next again answer last later ∧
        presented = [.u32 7, .i128 ⟨0, 5⟩] ∧
        outcome = .error (.decode "amount" (.unsupported "I128")) ∧
        again = [.i128 ⟨0, 5⟩] ∧
        answer =
          .ok (.object [("amount", .string "5"), ("memo", .string "x"), ("to", .int 7)]) := by
  have same := sameRaw_store unreadTransfer 3 (.string "x")
  obtain ⟨presented, outcome, after, next, ran, read, -, -, retry⟩ :=
    objectRead_toJson transfer_decoded same .scripted ⟨[("I128", 1)], [], 1⟩
  obtain ⟨again, answer, last, later, ranAgain, -⟩ := retry .scripted next
  refine ⟨_, presented, outcome, after, next, again, answer, last, later, transfer_decoded, rfl,
    same, ran, read, ranAgain, ?_⟩
  have stopped := ran.recorded []
  rw [List.nil_append] at stopped
  cases stopped
  have resumed := ranAgain.recorded []
  rw [List.nil_append] at resumed
  cases resumed
  exact ⟨rfl, rfl, rfl, rfl⟩

end DecodedEvent

end ContractEvents
