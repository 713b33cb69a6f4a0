/-
Module: ContractEvents.Proofs.Outcomes
Purpose: What an attempt that ends well went through, and where one that fails has stopped.
Main exports: bind_eq_ok_iff, bind_eq_error_iff, map_eq_ok_iff, mapError_eq_ok_iff,
  toOption_eq_some_iff, mapM_eq_ok_iff, mapM_eq_error_iff, exists_mapM_eq_ok_iff,
  run_bind_eq_ok_iff, run_lift_bind_eq_ok_iff
-/
import ContractEvents.Decoding.EventDecoder
import Mathlib.Data.List.Forall2

namespace ContractEvents

/-!
A reader or a decoder that gives a result has passed every step on the way, and each step gave the
result that the next one went on with; one that fails has stopped at a step, behind others that gave
results.  So an outcome is taken apart step by step, in front of any case analysis of the steps
themselves.
-/

variable {ε φ α β σ : Type}

theorem bind_eq_ok_iff {attempt : Except ε α} {next : α → Except ε β} {result : β} :
    attempt >>= next = .ok result ↔ ∃ value, attempt = .ok value ∧ next value = .ok result := by
  cases attempt <;> simp [bind, Except.bind]

theorem bind_eq_error_iff {attempt : Except ε α} {next : α → Except ε β} {fault : ε} :
    attempt >>= next = .error fault ↔
      attempt = .error fault ∨ ∃ value, attempt = .ok value ∧ next value = .error fault := by
  cases attempt <;> simp [bind, Except.bind]

theorem map_eq_ok_iff {attempt : Except ε α} {f : α → β} {result : β} :
    f <$> attempt = .ok result ↔ ∃ value, attempt = .ok value ∧ f value = result := by
  cases attempt <;> simp [Functor.map, Except.map]

theorem map_eq_error_iff {attempt : Except ε α} {f : α → β} {fault : ε} :
    f <$> attempt = .error fault ↔ attempt = .error fault := by
  cases attempt <;> simp [Functor.map, Except.map]

theorem mapError_eq_ok_iff {attempt : Except ε α} {f : ε → φ} {result : α} :
    attempt.mapError f = .ok result ↔ attempt = .ok result := by
  cases attempt with
  | error error =>
      constructor
      · rintro ⟨⟩
      · rintro ⟨⟩
  | ok value =>
      constructor
      · rintro ⟨⟩
        rfl
      · rintro ⟨⟩
        rfl

theorem mapError_eq_error_iff {attempt : Except ε α} {f : ε → φ} {fault : φ} :
    attempt.mapError f = .error fault ↔ ∃ cause, attempt = .error cause ∧ f cause = fault := by
  cases attempt <;> simp [Except.mapError]

theorem toOption_eq_some_iff {attempt : Except ε α} {result : α} :
    attempt.toOption = some result ↔ attempt = .ok result := by
  cases attempt <;> simp [Except.toOption]

/-- A pass over items succeeds if it does at each item, with the results in their order. -/
theorem mapM_eq_ok_iff {f : α → Except ε β} {items : List α} {results : List β} :
    items.mapM f = .ok results ↔
      List.Forall₂ (fun item result => f item = .ok result) items results := by
  induction items generalizing results with
  | nil => simp [pure, Except.pure, eq_comm]
  | cons item items inductionHypothesis =>
      rw [List.mapM_cons, bind_eq_ok_iff, List.forall₂_cons_left_iff]
      constructor
      · rintro ⟨result, here, passed⟩
        obtain ⟨others, behind, ⟨⟩⟩ := bind_eq_ok_iff.mp passed
        exact ⟨result, others, here, inductionHypothesis.mp behind, rfl⟩
      · rintro ⟨result, others, here, behind, rfl⟩
        exact ⟨result, here, bind_eq_ok_iff.mpr ⟨others, inductionHypothesis.mpr behind, rfl⟩⟩

/-- A pass over items fails with what it fails with at the first item where it does. -/
theorem mapM_eq_error_iff {f : α → Except ε β} {items : List α} {fault : ε} :
    items.mapM f = .error fault ↔
      ∃ before item after, items = before ++ item :: after ∧
        (∀ earlier ∈ before, ∃ result, f earlier = .ok result) ∧ f item = .error fault := by
  induction items with
  | nil => simp [pure, Except.pure]
  | cons first items inductionHypothesis =>
      rw [List.mapM_cons, bind_eq_error_iff]
      constructor
      · rintro (here | ⟨result, passed, later⟩)
        · exact ⟨[], first, items, rfl, by simp, here⟩
        · rcases bind_eq_error_iff.mp later with behind | ⟨_, -, ⟨⟩⟩
          obtain ⟨before, item, after, rfl, fine, failed⟩ := inductionHypothesis.mp behind
          exact ⟨first :: before, item, after, rfl,
            List.forall_mem_cons.mpr ⟨⟨result, passed⟩, fine⟩, failed⟩
      · rintro ⟨before, item, after, split, fine, failed⟩
        cases before with
        | nil =>
            cases split
            exact .inl failed
        | cons _ before =>
            cases split
            obtain ⟨⟨result, passed⟩, fine⟩ := List.forall_mem_cons.mp fine
            exact .inr ⟨result, passed, bind_eq_error_iff.mpr (.inl
              (inductionHypothesis.mpr ⟨before, item, after, rfl, fine, failed⟩))⟩

theorem exists_mapM_eq_ok_iff {f : α → Except ε β} {items : List α} :
    (∃ results, items.mapM f = .ok results) ↔ ∀ item ∈ items, ∃ result, f item = .ok result := by
  constructor
  · rintro ⟨results, passed⟩
    rw [mapM_eq_ok_iff] at passed
    induction passed with
    | nil => simp
    | cons here behind inductionHypothesis =>
        exact List.forall_mem_cons.mpr ⟨⟨_, here⟩, inductionHypothesis⟩
  · intro each
    cases passed : items.mapM f with
    | ok results => exact ⟨results, rfl⟩
    | error fault =>
        obtain ⟨before, item, after, rfl, -, failed⟩ := mapM_eq_error_iff.mp passed
        obtain ⟨result, fine⟩ := each item (List.mem_append_right _ List.mem_cons_self)
        rw [fine] at failed
        cases failed

/-- An attempt with a state hands the state on from step to step. -/
theorem run_bind_eq_ok_iff {attempt : ExceptT ε (StateM σ) α} {next : α → ExceptT ε (StateM σ) β}
    {before after : σ} {result : β} :
    (attempt >>= next).run.run before = (.ok result, after) ↔
      ∃ value middle, attempt.run.run before = (.ok value, middle) ∧
        (next value).run.run middle = (.ok result, after) := by
  rw [ExceptT.run_bind, StateT.run_bind]
  rcases attempt.run.run before with ⟨error | value, middle⟩
  · constructor
    · intro finished
      cases finished
    · rintro ⟨_, _, ⟨⟩, _⟩
  · constructor
    · intro finished
      exact ⟨value, middle, rfl, finished⟩
    · rintro ⟨_, _, ⟨⟩, finished⟩
      exact finished

/-- A step that cannot fail hands its result and the state on. -/
theorem run_lift_bind_eq_ok_iff {step : StateM σ α} {next : α → ExceptT ε (StateM σ) β}
    {before after : σ} {result : β} :
    (liftM step >>= next : ExceptT ε (StateM σ) β).run.run before = (.ok result, after) ↔
      ∃ value middle, step.run before = (value, middle) ∧
        (next value).run.run middle = (.ok result, after) := by
  have unfolded : (liftM step >>= next : ExceptT ε (StateM σ) β).run.run before =
      (next (step.run before).1).run.run (step.run before).2 := rfl
  rw [unfolded]
  rcases step.run before with ⟨value, middle⟩
  constructor
  · intro finished
    exact ⟨value, middle, rfl, finished⟩
  · rintro ⟨_, _, ⟨⟩, finished⟩
    exact finished

end ContractEvents
