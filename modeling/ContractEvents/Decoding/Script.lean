/-
Module: ContractEvents.Decoding.Script
Purpose: A value decoder that fails and renames by a script and counts its calls.
Main exports: Script, ValueDecoder.scripted
-/
import ContractEvents.Decoding.ValueDecoder

namespace ContractEvents

/-- What a scripted decoder still has to do, by the tag of the value it is given: how often to fail,
without end if the number is negative, and which text to answer instead of the native form. -/
structure Script where
  failures : List (String × Int)
  renames : List (String × String)
  calls : Nat
deriving DecidableEq, Repr, Inhabited

namespace Script

/-- Lowers the number of failures that are left for a tag. -/
def spend (tag : String) (failures : List (String × Int)) : List (String × Int) :=
  failures.map fun (name, left) => if name = tag then (name, left - 1) else (name, left)

/-- The answer to a value, without counting it. -/
def answer (script : Script) (value : Value) : Except ValueError NativeValue × Script :=
  if (script.failures.lookup value.tag).getD 0 ≠ 0 then
    (.error (.unsupported value.tag),
      { script with failures := spend value.tag script.failures })
  else
    match script.renames.lookup value.tag with
    | some text => (.ok (.string text), script)
    | none => (value.decode, script)

end Script

/-- The decoder that follows a script.  A failing call counts too. -/
def ValueDecoder.scripted : ValueDecoder Script := fun value script =>
  script.answer value |>.map id fun rest => { rest with calls := script.calls + 1 }

end ContractEvents
