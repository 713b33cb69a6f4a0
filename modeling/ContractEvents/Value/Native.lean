/-
Module: ContractEvents.Value.Native
Purpose: Decoded values: their kind, text and JSON, and which native types accept them.
Main exports: NativeValue, NativeValue.toJson, NativeValue.text, NativeType.accepts
-/
import ContractEvents.Json.Basic
import ContractEvents.Types.Native
import ContractEvents.Bytes.Hex

namespace ContractEvents

/-- A decoded value.  Wide integers are decimal text, so no reader can narrow them. -/
inductive NativeValue where
  | void
  | bool (b : Bool)
  /-- An integer of 32 bits, signed or not. -/
  | number (n : Int)
  /-- The decimal text of a wider integer. -/
  | bigInt (digits : String)
  | bytes (bs : Bytes)
  /-- A string or a symbol. -/
  | string (s : String)
  /-- The checked text of an address. -/
  | address (text : String)
  | vec (items : List NativeValue)
  /-- The entries in their stored order. -/
  | map (entries : List (NativeValue × NativeValue))
  /-- A value without a native form: the name of its kind and its binary form in base64. -/
  | raw (tag xdr : String)
deriving Repr, Inhabited

namespace NativeValue

/-- The text of a string. -/
def asText? : NativeValue → Option String
  | .string s => some s
  | _ => none

/-- The name of the kind of a value, as mismatches report it. -/
def kind : NativeValue → String
  | .void => "void"
  | .bool _ => "bool"
  | .number _ => "int32"
  | .bigInt _ => "bigint"
  | .bytes _ => "bytes"
  | .string _ => "string"
  | .address _ => "Address"
  | .vec _ => "vec"
  | .map _ => "map"
  | .raw .. => "raw"

/-- Are all keys strings? -/
def hasTextKeys (entries : List (NativeValue × NativeValue)) : Bool :=
  entries.all fun (key, _) => key.asText?.isSome

mutual

/-- The JSON of a value.  A map whose keys are all strings is an object, in which the last of equal
keys stands; any other map is an array of pairs. -/
def toJson : NativeValue → Json
  | .void => .null
  | .bool b => .bool b
  | .number n => .int n
  | .bigInt digits => .string digits
  | .bytes bs => .string (Bytes.toHex bs)
  | .string s => .string s
  | .address text => .string text
  | .vec items => .array (itemsToJson items)
  | .map entries =>
      if hasTextKeys entries then Json.ofMembers (membersToJson entries)
      else .array (pairsToJson entries)
  | .raw tag xdr => .object [("type", .string tag), ("xdr", .string xdr)]

/-- The JSON of the items of a vector. -/
def itemsToJson : List NativeValue → List Json
  | [] => []
  | item :: items => item.toJson :: itemsToJson items

/-- The members of a map with string keys. -/
def membersToJson : List (NativeValue × NativeValue) → List (String × Json)
  | [] => []
  | (.string key, value) :: entries => (key, value.toJson) :: membersToJson entries
  | _ :: entries => membersToJson entries

/-- The pairs of a map. -/
def pairsToJson : List (NativeValue × NativeValue) → List Json
  | [] => []
  | (key, value) :: entries => .array [key.toJson, value.toJson] :: pairsToJson entries

end

mutual

/-- The plain text of a value. -/
def text : NativeValue → String
  | .void => "null"
  | .bool b => if b then "true" else "false"
  | .number n => toString n
  | .bigInt digits => digits
  | .bytes bs => Bytes.toHex bs
  | .string s => s
  | .address text => text
  | .vec items => "[" ++ ",".intercalate (itemTexts items) ++ "]"
  | .map entries => "\x7b" ++ ",".intercalate (entryTexts entries) ++ "\x7d"
  | .raw tag xdr => tag ++ "(" ++ xdr ++ ")"

/-- The plain texts of the items of a vector. -/
def itemTexts : List NativeValue → List String
  | [] => []
  | item :: items => item.text :: itemTexts items

/-- The plain texts of the entries of a map. -/
def entryTexts : List (NativeValue × NativeValue) → List String
  | [] => []
  | (key, value) :: entries => (key.text ++ ":" ++ value.text) :: entryTexts entries

end

mutual

/-- The value in diagnostic notation. -/
def shown : NativeValue → String
  | .void => "Void"
  | .bool b => Shown.call "Bool" [toString b]
  | .number n => Shown.call "Number" [toString n]
  | .bigInt digits => Shown.call "BigInt" [Text.quoted digits]
  | .bytes bs => Shown.call "Bytes" [Shown.list (bs.map fun b => toString b.toNat)]
  | .string s => Shown.call "String" [Text.quoted s]
  | .address text => Shown.call "Address" [Text.quoted text]
  | .vec items => Shown.call "Vec" [Shown.list (shownItems items)]
  | .map entries => Shown.call "Map" [Shown.list (shownEntries entries)]
  | .raw tag xdr => Shown.fields "Raw" [("tag", Text.quoted tag), ("xdr", Text.quoted xdr)]

/-- The items of a vector in diagnostic notation. -/
def shownItems : List NativeValue → List String
  | [] => []
  | item :: items => item.shown :: shownItems items

/-- The entries of a map in diagnostic notation. -/
def shownEntries : List (NativeValue × NativeValue) → List String
  | [] => []
  | (key, value) :: entries => Shown.call "" [key.shown, value.shown] :: shownEntries entries

end

end NativeValue

namespace NativeType

mutual

/-- Does a decoded value have the shape that the type predicts? -/
def accepts : NativeType → NativeValue → Bool
  | .any _, _ => true
  | .nullable inner, value =>
      match value with
      | .void => true
      | other => inner.accepts other
  | .boolean, .bool _ => true
  | .int32, .number _ => true
  | .bigInt, .bigInt _ => true
  | .address, .address _ => true
  | .muxedAccount, .address _ => true
  | .string, .string _ => true
  | .sequence item, .vec items => items.all fun value => item.accepts value
  | .tuple types, .vec items => acceptsEach types items
  | .mapping key value, .map entries =>
      entries.all fun (k, v) => key.accepts k && value.accepts v
  | _, _ => false

/-- Are there as many values as types, each accepted by the type at its position? -/
def acceptsEach : List NativeType → List NativeValue → Bool
  | [], [] => true
  | type :: types, value :: values => type.accepts value && acceptsEach types values
  | _, _ => false

end

end NativeType

end ContractEvents
