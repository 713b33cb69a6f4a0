/-
Module: ContractEvents.Types.Wire
Purpose: The types that event fields are declared with.
Main exports: WireType, WireType.depth, WireType.text
-/
import ContractEvents.Text.Shown

namespace ContractEvents

/-- The wire type of a field.  A shape with no native counterpart is unknown and keeps its name. -/
inductive WireType where
  | bool
  | i32
  | u32
  | i64
  | u64
  | timepoint
  | duration
  | i128
  | u128
  | i256
  | u256
  | address
  | muxedAddress
  | string
  | symbol
  | vec (item : WireType)
  | tuple (items : List WireType)
  | map (key value : WireType)
  | option (inner : WireType)
  | unknown (name : String)
deriving Repr, Inhabited

namespace WireType

mutual

/-- How many types stand inside each other; a leaf has depth one. -/
def depth : WireType → Nat
  | .vec item => 1 + item.depth
  | .option inner => 1 + inner.depth
  | .map key value => 1 + max key.depth value.depth
  | .tuple items => 1 + depthOfItems items
  | _ => 1

/-- The greatest depth in a list of types. -/
def depthOfItems : List WireType → Nat
  | [] => 0
  | item :: items => max item.depth (depthOfItems items)

end

/-- Is the type unknown as a whole? -/
def isUnknown : WireType → Bool
  | .unknown _ => true
  | _ => false

/-- The name of a type's constructor. -/
def kind : WireType → String
  | .bool => "Bool"
  | .i32 => "I32"
  | .u32 => "U32"
  | .i64 => "I64"
  | .u64 => "U64"
  | .timepoint => "Timepoint"
  | .duration => "Duration"
  | .i128 => "I128"
  | .u128 => "U128"
  | .i256 => "I256"
  | .u256 => "U256"
  | .address => "Address"
  | .muxedAddress => "MuxedAddress"
  | .string => "String"
  | .symbol => "Symbol"
  | .vec _ => "Vec"
  | .tuple _ => "Tuple"
  | .map .. => "Map"
  | .option _ => "Option"
  | .unknown _ => "Unknown"

mutual

/-- The signature: the constructor's name, and its arguments in angle brackets without spaces. -/
def text : WireType → String
  | .vec item => "Vec<" ++ item.text ++ ">"
  | .tuple items => "Tuple<" ++ ",".intercalate (textOfItems items) ++ ">"
  | .map key value => "Map<" ++ key.text ++ "," ++ value.text ++ ">"
  | .option inner => "Option<" ++ inner.text ++ ">"
  | .unknown name => "Unknown(" ++ name ++ ")"
  | leaf => leaf.kind

/-- The signatures of a list of types. -/
def textOfItems : List WireType → List String
  | [] => []
  | item :: items => item.text :: textOfItems items

end

mutual

/-- The type in diagnostic notation. -/
def shown : WireType → String
  | .vec item => Shown.call "Vec" [item.shown]
  | .tuple items => Shown.call "Tuple" [Shown.list (shownItems items)]
  | .map key value => Shown.call "Map" [key.shown, value.shown]
  | .option inner => Shown.call "Option" [inner.shown]
  | .unknown name => Shown.call "Unknown" [Text.quoted name]
  | leaf => leaf.kind

/-- Types in diagnostic notation. -/
def shownItems : List WireType → List String
  | [] => []
  | item :: items => item.shown :: shownItems items

end

end WireType

end ContractEvents
