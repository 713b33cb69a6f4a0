/-
Module: ContractEvents.Types.Encoding
Purpose: Wire and native types as JSON.
Main exports: WireType.toJson, WireType.ofJson, NativeType.toJson, NativeType.ofJson
-/
import ContractEvents.Json.Decoder
import ContractEvents.Types.Native

namespace ContractEvents

/-!
A type is an object with the constructor's name under `kind` and, for a type with arguments, the
arguments under `of`: one type as itself, a key and a value as an array of two, the items of a tuple
as an array.
-/

/-- The JSON of a constructor without arguments. -/
def bareKind (kind : String) : Json := .object [("kind", .string kind)]

/-- The JSON of a constructor with arguments. -/
def kindOf (kind : String) (arguments : Json) : Json :=
  .object [("kind", .string kind), ("of", arguments)]

namespace WireType

mutual

/-- The JSON of a type. -/
def toJson : WireType → Json
  | .vec item => kindOf "Vec" item.toJson
  | .tuple items => kindOf "Tuple" (.array (itemsToJson items))
  | .map key value => kindOf "Map" (.array [key.toJson, value.toJson])
  | .option inner => kindOf "Option" inner.toJson
  | .unknown name => kindOf "Unknown" (.string name)
  | leaf => bareKind leaf.kind

/-- The JSON of the types in a list. -/
def itemsToJson : List WireType → List Json
  | [] => []
  | item :: items => item.toJson :: itemsToJson items

end

/-- Reads a type nested at most `bound` deep. -/
def read : (bound : Nat) → Json → Except Json.Mismatch WireType
  | 0, value => .error (.wrongType value "WireType")
  | bound + 1, value => value |> Json.tagged "WireType" fun kind arguments =>
      match kind with
      | "Bool" => Json.bare .bool arguments
      | "I32" => Json.bare .i32 arguments
      | "U32" => Json.bare .u32 arguments
      | "I64" => Json.bare .i64 arguments
      | "U64" => Json.bare .u64 arguments
      | "Timepoint" => Json.bare .timepoint arguments
      | "Duration" => Json.bare .duration arguments
      | "I128" => Json.bare .i128 arguments
      | "U128" => Json.bare .u128 arguments
      | "I256" => Json.bare .i256 arguments
      | "U256" => Json.bare .u256 arguments
      | "Address" => Json.bare .address arguments
      | "MuxedAddress" => Json.bare .muxedAddress arguments
      | "String" => Json.bare .string arguments
      | "Symbol" => Json.bare .symbol arguments
      | "Vec" => .vec <$> read bound arguments
      | "Tuple" => .tuple <$> Json.listOf (read bound) arguments
      | "Map" => do
          let (key, held) ← Json.pairOf (read bound) arguments
          return .map key held
      | "Option" => .option <$> read bound arguments
      | "Unknown" => .unknown <$> Json.toText arguments
      | other => .error (.unknownVariant other)

/-- Reads a type. -/
def ofJson (value : Json) : Except Json.Mismatch WireType := read value.height value

end WireType

namespace NativeType

mutual

/-- The JSON of a type. -/
def toJson : NativeType → Json
  | .nullable inner => kindOf "Nullable" inner.toJson
  | .sequence item => kindOf "Sequence" item.toJson
  | .tuple items => kindOf "Tuple" (.array (itemsToJson items))
  | .mapping key value => kindOf "Mapping" (.array [key.toJson, value.toJson])
  | .any name => kindOf "Any" (.string name)
  | leaf => bareKind leaf.kind

/-- The JSON of the types in a list. -/
def itemsToJson : List NativeType → List Json
  | [] => []
  | item :: items => item.toJson :: itemsToJson items

end

/-- Reads a type nested at most `bound` deep. -/
def read : (bound : Nat) → Json → Except Json.Mismatch NativeType
  | 0, value => .error (.wrongType value "NativeType")
  | bound + 1, value => value |> Json.tagged "NativeType" fun kind arguments =>
      match kind with
      | "Boolean" => Json.bare .boolean arguments
      | "Int32" => Json.bare .int32 arguments
      | "BigInt" => Json.bare .bigInt arguments
      | "Address" => Json.bare .address arguments
      | "MuxedAccount" => Json.bare .muxedAccount arguments
      | "String" => Json.bare .string arguments
      | "Nullable" => .nullable <$> read bound arguments
      | "Sequence" => .sequence <$> read bound arguments
      | "Tuple" => .tuple <$> Json.listOf (read bound) arguments
      | "Mapping" => do
          let (key, held) ← Json.pairOf (read bound) arguments
          return .mapping key held
      | "Any" => .any <$> Json.toText arguments
      | other => .error (.unknownVariant other)

/-- Reads a type. -/
def ofJson (value : Json) : Except Json.Mismatch NativeType := read value.height value

end NativeType

end ContractEvents
