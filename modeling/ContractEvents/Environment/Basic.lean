/-
Module: ContractEvents.Environment.Basic
Purpose: The environment variables of a run.
Main exports: Environment, Environment.get?, Environment.set, Environment.assign
-/

namespace ContractEvents

/-- The variables that are set.  Of several bindings of one name, the first one counts. -/
structure Environment where
  bindings : List (String × String)
deriving DecidableEq, Repr, Inhabited

namespace Environment

/-- The value of a variable, if it is set. -/
def get? (environment : Environment) (name : String) : Option String :=
  environment.bindings.lookup name

/-- Sets a variable, in place of a value that it has. -/
def set (environment : Environment) (name value : String) : Environment :=
  ⟨(name, value) :: environment.bindings⟩

/-- Sets variables one after the other. -/
def assign (environment : Environment) (assignments : List (String × String)) : Environment :=
  assignments.foldl (fun env (name, value) => env.set name value) environment

theorem get?_set (environment : Environment) (name value other : String) :
    (environment.set name value).get? other =
      if other = name then some value else environment.get? other := by
  by_cases h : other = name
  · simp [get?, set, h]
  · simp [get?, set, List.lookup_cons, h, beq_eq_false_iff_ne.2 h]

end Environment

end ContractEvents
