/-
Module: ContractEvents.Text.Shown
Purpose: The one-line notation in which diagnostics show structured data.
Main exports: Shown.call, Shown.fields, Shown.list, Shown.entries, Shown.optional
-/
import ContractEvents.Text.Quoted

namespace ContractEvents.Shown

/-- A constructor with its arguments in parentheses. -/
def call (name : String) (arguments : List String) : String :=
  name ++ "(" ++ ", ".intercalate arguments ++ ")"

/-- A record with its named fields in braces. -/
def fields (name : String) (fields : List (String × String)) : String :=
  name ++ " \x7b " ++ ", ".intercalate (fields.map fun (field, value) => field ++ ": " ++ value) ++
    " \x7d"

/-- Items in brackets. -/
def list (items : List String) : String := "[" ++ ", ".intercalate items ++ "]"

/-- Keys and values in braces. -/
def entries (entries : List (String × String)) : String :=
  "\x7b" ++ ", ".intercalate (entries.map fun (key, value) => key ++ ": " ++ value) ++ "\x7d"

/-- A value that may be absent. -/
def optional : Option String → String
  | none => "None"
  | some value => call "Some" [value]

end ContractEvents.Shown
