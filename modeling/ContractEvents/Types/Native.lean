/-
Module: ContractEvents.Types.Native
Purpose: The native types that decoded fields have, and which native type a wire type maps to.
Main exports: NativeType, NativeType.text, mapType
-/
import ContractEvents.Types.Wire

namespace ContractEvents

/-- The native type of a field. -/
inductive NativeType where
  | boolean
  /-- An integer of 32 bits, signed or not. -/
  | int32
  /-- A wider integer, a time or a duration. -/
  | bigInt
  | address
  | muxedAccount
  | string
  | nullable (inner : NativeType)
  | sequence (item : NativeType)
  | tuple (items : List NativeType)
  | mapping (key value : NativeType)
  /-- Any value; the name tells what the field was declared as. -/
  | any (name : String)
deriving Repr, Inhabited

namespace NativeType

/-- The name of a type's constructor. -/
def kind : NativeType → String
  | .boolean => "Boolean"
  | .int32 => "Int32"
  | .bigInt => "BigInt"
  | .address => "Address"
  | .muxedAccount => "MuxedAccount"
  | .string => "String"
  | .nullable _ => "Nullable"
  | .sequence _ => "Sequence"
  | .tuple _ => "Tuple"
  | .mapping .. => "Mapping"
  | .any _ => "Any"

mutual

/-- How many types stand inside each other; a leaf has depth one. -/
def depth : NativeType → Nat
  | .sequence item => 1 + item.depth
  | .nullable inner => 1 + inner.depth
  | .mapping key value => 1 + max key.depth value.depth
  | .tuple items => 1 + depthOfItems items
  | _ => 1

/-- The greatest depth in a list of types. -/
def depthOfItems : List NativeType → Nat
  | [] => 0
  | item :: items => max item.depth (depthOfItems items)

end

mutual

/-- The signature that readers of an interface see. -/
def text : NativeType → String
  | .boolean => "bool"
  | .int32 => "int32"
  | .bigInt => "bigint"
  | .address => "Address"
  | .muxedAccount => "MuxedAccount"
  | .string => "string"
  | .nullable inner => "Option<" ++ inner.text ++ ">"
  | .sequence item => "Vec<" ++ item.text ++ ">"
  | .tuple items => "(" ++ ", ".intercalate (textOfItems items) ++ ")"
  | .mapping key value => "Map<" ++ key.text ++ ", " ++ value.text ++ ">"
  | .any name => "any /* " ++ name ++ " */"

/-- The signatures of a list of types. -/
def textOfItems : List NativeType → List String
  | [] => []
  | item :: items => item.text :: textOfItems items

end

mutual

/-- The type in diagnostic notation. -/
def shown : NativeType → String
  | .nullable inner => Shown.call "Nullable" [inner.shown]
  | .sequence item => Shown.call "Sequence" [item.shown]
  | .tuple items => Shown.call "Tuple" [Shown.list (shownItems items)]
  | .mapping key value => Shown.call "Mapping" [key.shown, value.shown]
  | .any name => Shown.call "Any" [Text.quoted name]
  | leaf => leaf.kind

/-- Types in diagnostic notation. -/
def shownItems : List NativeType → List String
  | [] => []
  | item :: items => item.shown :: shownItems items

end

end NativeType

mutual

/-- The native type that the values of a wire type decode to.  Every integer wider than 32 bits
becomes a big integer, so none is narrowed. -/
def mapType : WireType → NativeType
  | .bool => .boolean
  | .i32 => .int32
  | .u32 => .int32
  | .i64 => .bigInt
  | .u64 => .bigInt
  | .timepoint => .bigInt
  | .duration => .bigInt
  | .i128 => .bigInt
  | .u128 => .bigInt
  | .i256 => .bigInt
  | .u256 => .bigInt
  | .address => .address
  | .muxedAddress => .muxedAccount
  | .string => .string
  | .symbol => .string
  | .option inner => .nullable (mapType inner)
  | .vec item => .sequence (mapType item)
  | .tuple items => .tuple (mapTypes items)
  | .map key value => .mapping (mapType key) (mapType value)
  | .unknown name => .any name

/-- The native types of a list of wire types. -/
def mapTypes : List WireType → List NativeType
  | [] => []
  | item :: items => mapType item :: mapTypes items

end

end ContractEvents
