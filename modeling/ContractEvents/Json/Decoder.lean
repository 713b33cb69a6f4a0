/-
Module: ContractEvents.Json.Decoder
Purpose: JSON values to typed values, with the reason a value does not fit.
Main exports: Json.Mismatch, Json.record, Json.Fields, Json.toText, Json.toWord, Json.listOf,
  Json.variant, Json.choice
-/
import ContractEvents.Json.Printer
import ContractEvents.Text.Quoted

namespace ContractEvents.Json

/-!
A record is an object with a member for each field, or an array of its fields in their order;
members of other names are ignored, and a field must not be given twice.  Only an object may leave
out a field.  A choice between variants is the variant's name, for one that carries nothing, or an
object whose one member has that name.
-/

/-- Why a JSON value does not fit a type. -/
inductive Mismatch where
  | missingField (name : String)
  | repeatedField (name : String)
  | wrongType (found : Json) (expected : String)
  | wrongValue (found : Json) (expected : String)
  | wrongLength (count : Nat) (expected : String)
  | unknownVariant (name : String)
deriving Repr, Inhabited

/-- What kind of value it is, with the value itself if it is short. -/
def describe : Json → String
  | .null => "null"
  | .bool b => s!"boolean `{compact (.bool b)}`"
  | .number (.int n) => s!"integer `{n}`"
  | .number (.double x) => s!"floating point `{x.text}`"
  | .string s => "string " ++ Text.quoted s
  | .array _ => "sequence"
  | .object _ => "map"
  | .unread => "unread value"

/-- The reason in words. -/
def Mismatch.message : Mismatch → String
  | .missingField name => s!"missing field `{name}`"
  | .repeatedField name => s!"duplicate field `{name}`"
  | .wrongType found expected => s!"invalid type: {describe found}, expected {expected}"
  | .wrongValue found expected => s!"invalid value: {describe found}, expected {expected}"
  | .wrongLength count expected => s!"invalid length {count}, expected {expected}"
  | .unknownVariant name => s!"unknown variant `{name}`"

/-- A text. -/
def toText : Json → Except Mismatch String
  | .string s => .ok s
  | other => .error (.wrongType other "a string")

/-- A truth value. -/
def toBool : Json → Except Mismatch Bool
  | .bool b => .ok b
  | other => .error (.wrongType other "a boolean")

/-- A 32-bit word. -/
def toWord : Json → Except Mismatch UInt32
  | .number (.int n) =>
      if 0 ≤ n ∧ n < 0x100000000 then .ok (UInt32.ofNat n.toNat)
      else .error (.wrongValue (.int n) "u32")
  | other => .error (.wrongType other "u32")

/-- A list whose items fit `item`. -/
def listOf {α : Type} (item : Json → Except Mismatch α) : Json → Except Mismatch (List α)
  | .array items => items.mapM item
  | other => .error (.wrongType other "a sequence")

/-- A value, or `null` for none. -/
def optional {α : Type} (item : Json → Except Mismatch α) : Json → Except Mismatch (Option α)
  | .null => .ok none
  | other => some <$> item other

/-- The member of a name, which must not occur twice. -/
def uniqueMember? (members : List (String × Json)) (name : String) :
    Except Mismatch (Option Json) :=
  match members.filter fun m => m.1 == name with
  | [] => .ok none
  | [m] => .ok (some m.2)
  | _ => .error (.repeatedField name)

/-- The fields of a record under their names; `positional` tells that it is written as an array. -/
structure Fields where
  what : String
  names : List String
  members : List (String × Json)
  positional : Bool
deriving Repr, Inhabited

/-- The fault of a field that is not there: an array is as long as the fields in front of it. -/
def Fields.absent (fields : Fields) (name : String) : Mismatch :=
  if fields.positional then
    .wrongLength (fields.names.idxOf name)
      s!"struct {fields.what} with {fields.names.length} elements"
  else .missingField name

/-- Reads a record by its fields.  An array must hold no more items than there are fields. -/
def record {α : Type} (what : String) (names : List String)
    (body : Fields → Except Mismatch α) : Json → Except Mismatch α
  | .object members => do
      names.forM fun name => discard (uniqueMember? members name)
      body ⟨what, names, members.filter fun m => names.contains m.1, false⟩
  | .array items => do
      let result ← body ⟨what, names, names.zip items, true⟩
      if names.length < items.length then
        throw (.wrongLength items.length "fewer elements in array")
      return result
  | other => .error (.wrongType other s!"struct {what}")

/-- A field that must be present. -/
def Fields.required {α : Type} (fields : Fields) (name : String)
    (read : Json → Except Mismatch α) : Except Mismatch α :=
  match fields.members.lookup name with
  | some value => read value
  | none => .error (fields.absent name)

/-- A field that may be `null` or, in an object, absent. -/
def Fields.optional {α : Type} (fields : Fields) (name : String)
    (read : Json → Except Mismatch α) : Except Mismatch (Option α) :=
  match fields.members.lookup name with
  | some value => Json.optional read value
  | none => if !fields.positional then .ok none else .error (fields.absent name)

/-- The name of a variant, and what it carries if anything is given. -/
def variant (what : String) : Json → Except Mismatch (String × Option Json)
  | .string name => .ok (name, none)
  | .object [(name, carried)] => .ok (name, some carried)
  | other => .error (.wrongType other s!"enum {what}")

/-- A choice between variants that carry nothing. -/
def choice {α : Type} (what : String) (read : String → Option α) (value : Json) :
    Except Mismatch α := do
  let (name, carried) ← variant what value
  match carried with
  | none => pure ()
  | some .null => pure ()
  | some other => throw (.wrongType other "unit")
  match read name with
  | some a => return a
  | none => throw (.unknownVariant name)

/-- A choice between variants of which some carry a value: a record of the variant's name, `kind`,
and of what it carries, `of`, which counts as `null` when an object leaves it out. -/
def tagged {α : Type} (what : String) (body : String → Json → Except Mismatch α) :
    Json → Except Mismatch α :=
  record what ["kind", "of"] fun fields => do
    let kind ← fields.required "kind" (choice what some)
    match fields.members.lookup "of" with
    | some carried => body kind carried
    | none => if !fields.positional then body kind .null else throw (fields.absent "of")

/-- A variant that carries nothing. -/
def bare {α : Type} (a : α) : Json → Except Mismatch α
  | .null => .ok a
  | other => .error (.wrongType other "unit")

/-- Exactly two items. -/
def pairOf {α : Type} (item : Json → Except Mismatch α) : Json → Except Mismatch (α × α)
  | .array [a, b] => do return (← item a, ← item b)
  | .array items => .error (.wrongLength items.length "tuple of 2 elements")
  | other => .error (.wrongType other "tuple of 2 elements")

end ContractEvents.Json
