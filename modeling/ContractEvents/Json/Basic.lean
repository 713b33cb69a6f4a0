/-
Module: ContractEvents.Json.Basic
Purpose: JSON values, and objects with distinct, sorted member names.
Main exports: Json, Json.ofMembers, Json.normal
-/
import ContractEvents.Json.Double

namespace ContractEvents

/-- A JSON number: an integer of the range `-2^63` to `2^64 - 1`, or a double. -/
inductive JsonNumber where
  | int (n : Int)
  | double (x : Double)
deriving DecidableEq, Repr, Inhabited

/-- A JSON value.  An object lists its members as they stand, so a name may occur twice.  Of a value
that is `unread` only the form is known. -/
inductive Json where
  | null
  | bool (b : Bool)
  | number (n : JsonNumber)
  | string (s : String)
  | array (items : List Json)
  | object (members : List (String × Json))
  | unread
deriving Repr, Inhabited

namespace Json

/-- An integer. -/
def int (n : Int) : Json := .number (.int n)

/-- Puts a member into a list sorted by name, in place of a member of the same name.  Names are
ordered by code point. -/
def insertMember (name : String) (value : Json) : List (String × Json) → List (String × Json)
  | [] => [(name, value)]
  | (other, held) :: rest =>
      if name < other then (name, value) :: (other, held) :: rest
      else if name = other then (name, value) :: rest
      else (other, held) :: insertMember name value rest

/-- Sorts members by name; of several with one name the last stands. -/
def sortMembers (members : List (String × Json)) : List (String × Json) :=
  members.foldl (fun sorted (name, value) => insertMember name value sorted) []

/-- The object of a member list. -/
def ofMembers (members : List (String × Json)) : Json := .object (sortMembers members)

mutual

/-- The value in which every object has distinct, sorted names. -/
def normal : Json → Json
  | .array items => .array (normalItems items)
  | .object members => .object (sortMembers (normalMembers members))
  | value => value

/-- The normal values of an item list. -/
def normalItems : List Json → List Json
  | [] => []
  | item :: items => item.normal :: normalItems items

/-- The members with their values normal. -/
def normalMembers : List (String × Json) → List (String × Json)
  | [] => []
  | (name, value) :: members => (name, value.normal) :: normalMembers members

end

mutual

/-- How many values stand inside each other at most. -/
def height : Json → Nat
  | .array items => heightItems items + 1
  | .object members => heightMembers members + 1
  | _ => 1

/-- The greatest height in an item list. -/
def heightItems : List Json → Nat
  | [] => 0
  | item :: items => max item.height (heightItems items)

/-- The greatest height in a member list. -/
def heightMembers : List (String × Json) → Nat
  | [] => 0
  | (_, value) :: members => max value.height (heightMembers members)

end

end Json

end ContractEvents
