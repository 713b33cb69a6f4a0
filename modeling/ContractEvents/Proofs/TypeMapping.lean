/-
Module: ContractEvents.Proofs.TypeMapping
Purpose: How much of a declared type its native type tells.
Main exports: WireType.LeafClass, WireType.Alike, SpecType.depth, WireType.depth_mapType,
  WireType.depth_ofSpec, WireType.mapType_exact
-/
import ContractEvents.Event.Extraction
import Mathlib.Logic.Basic

namespace ContractEvents

/-!
Mapping a wire type keeps its tree: every container becomes one of its own kind, with as many parts
in the same order, and every leaf a leaf.  All that is lost is which leaf of a class it was, for
integers of one width class share a native type, and so do the two kinds of text.
-/

namespace WireType

/-- The leaves that share a native type with others. -/
inductive LeafClass where
  | int32
  | bigInt
  | text
deriving DecidableEq, Repr, Inhabited

/-- The class that a leaf shares its native type with. -/
def leafClass? : WireType → Option LeafClass
  | .i32 | .u32 => some .int32
  | .i64 | .u64 | .timepoint | .duration | .i128 | .u128 | .i256 | .u256 => some .bigInt
  | .string | .symbol => some .text
  | _ => none

mutual

/-- Two types are the same tree, except that leaves of one class stand in for each other. -/
inductive Alike : WireType → WireType → Prop where
  | exchanged {one two : WireType} {shared : LeafClass} (ofOne : one.leafClass? = some shared)
      (ofTwo : two.leafClass? = some shared) : Alike one two
  | bool : Alike .bool .bool
  | address : Alike .address .address
  | muxedAddress : Alike .muxedAddress .muxedAddress
  | unknown (name : String) : Alike (.unknown name) (.unknown name)
  | option {one two : WireType} (inner : Alike one two) : Alike (.option one) (.option two)
  | vec {one two : WireType} (item : Alike one two) : Alike (.vec one) (.vec two)
  | map {key other value another : WireType} (keys : Alike key other)
      (values : Alike value another) : Alike (.map key value) (.map other another)
  | tuple {ones twos : List WireType} (items : AlikeEach ones twos) :
      Alike (.tuple ones) (.tuple twos)

/-- Types that are alike, position by position. -/
inductive AlikeEach : List WireType → List WireType → Prop where
  | nil : AlikeEach [] []
  | cons {one two : WireType} {ones twos : List WireType} (here : Alike one two)
      (behind : AlikeEach ones twos) : AlikeEach (one :: ones) (two :: twos)

end

/-- The native type that the leaves of a class share. -/
def LeafClass.native : LeafClass → NativeType
  | .int32 => .int32
  | .bigInt => .bigInt
  | .text => .string

end WireType

/-- The wire types that are mapped to a native type, whose parts are those that the parts of the
wire type are mapped to. -/
def NativeType.ComesFrom : NativeType → WireType → Prop
  | .boolean, type => type = .bool
  | .int32, type => type.leafClass? = some .int32
  | .bigInt, type => type.leafClass? = some .bigInt
  | .address, type => type = .address
  | .muxedAccount, type => type = .muxedAddress
  | .string, type => type.leafClass? = some .text
  | .nullable inner, type => ∃ other, type = .option other ∧ inner = mapType other
  | .sequence item, type => ∃ other, type = .vec other ∧ item = mapType other
  | .tuple items, type => ∃ others, type = .tuple others ∧ items = mapTypes others
  | .mapping key value, type =>
      ∃ other another, type = .map other another ∧ key = mapType other ∧ value = mapType another
  | .any name, type => type = .unknown name

namespace WireType

theorem mapType_of_leafClass {type : WireType} {shared : LeafClass}
    (ofClass : type.leafClass? = some shared) : mapType type = shared.native := by
  cases type <;> cases ofClass <;> rfl

theorem comesFrom_mapType (type : WireType) : (mapType type).ComesFrom type := by
  cases type with
  | option inner => exact ⟨inner, rfl, rfl⟩
  | vec item => exact ⟨item, rfl, rfl⟩
  | tuple items => exact ⟨items, rfl, rfl⟩
  | map key value => exact ⟨key, value, rfl, rfl, rfl⟩
  | _ => rfl

/-- A native type has been mapped from each wire type that is mapped to it. -/
theorem comesFrom_of_mapType_eq {one two : WireType} (same : mapType one = mapType two) :
    (mapType one).ComesFrom two := by
  rw [same]
  exact comesFrom_mapType two

mutual

/-- The native type tells the tree and the class of every leaf: from the constructor of one type
that of the other follows. -/
theorem alike_of_mapType_eq :
    ∀ (one : WireType) {two : WireType}, mapType one = mapType two → one.Alike two
  | .bool, _, same => by
      obtain rfl := comesFrom_of_mapType_eq same
      exact .bool
  | .i32, _, same => .exchanged rfl (comesFrom_of_mapType_eq same)
  | .u32, _, same => .exchanged rfl (comesFrom_of_mapType_eq same)
  | .i64, _, same => .exchanged rfl (comesFrom_of_mapType_eq same)
  | .u64, _, same => .exchanged rfl (comesFrom_of_mapType_eq same)
  | .timepoint, _, same => .exchanged rfl (comesFrom_of_mapType_eq same)
  | .duration, _, same => .exchanged rfl (comesFrom_of_mapType_eq same)
  | .i128, _, same => .exchanged rfl (comesFrom_of_mapType_eq same)
  | .u128, _, same => .exchanged rfl (comesFrom_of_mapType_eq same)
  | .i256, _, same => .exchanged rfl (comesFrom_of_mapType_eq same)
  | .u256, _, same => .exchanged rfl (comesFrom_of_mapType_eq same)
  | .address, _, same => by
      obtain rfl := comesFrom_of_mapType_eq same
      exact .address
  | .muxedAddress, _, same => by
      obtain rfl := comesFrom_of_mapType_eq same
      exact .muxedAddress
  | .string, _, same => .exchanged rfl (comesFrom_of_mapType_eq same)
  | .symbol, _, same => .exchanged rfl (comesFrom_of_mapType_eq same)
  | .option inner, _, same => by
      obtain ⟨other, rfl, sameInner⟩ := comesFrom_of_mapType_eq same
      exact .option (alike_of_mapType_eq inner sameInner)
  | .vec item, _, same => by
      obtain ⟨other, rfl, sameItem⟩ := comesFrom_of_mapType_eq same
      exact .vec (alike_of_mapType_eq item sameItem)
  | .tuple items, _, same => by
      obtain ⟨others, rfl, sameItems⟩ := comesFrom_of_mapType_eq same
      exact .tuple (alikeEach_of_mapTypes_eq items sameItems)
  | .map key value, _, same => by
      obtain ⟨other, another, rfl, sameKey, sameValue⟩ := comesFrom_of_mapType_eq same
      exact .map (alike_of_mapType_eq key sameKey) (alike_of_mapType_eq value sameValue)
  | .unknown name, _, same => by
      obtain rfl := comesFrom_of_mapType_eq same
      exact .unknown name

/-- Equal lists of native types come from lists of types that are alike. -/
theorem alikeEach_of_mapTypes_eq :
    ∀ (ones : List WireType) {twos : List WireType}, mapTypes ones = mapTypes twos →
      AlikeEach ones twos
  | [], [], _ => .nil
  | [], two :: twos, same => by cases same
  | one :: ones, [], same => by cases same
  | one :: ones, two :: twos, same => by
      obtain ⟨here, behind⟩ := List.cons.inj same
      exact .cons (alike_of_mapType_eq one here) (alikeEach_of_mapTypes_eq ones behind)

end

mutual

/-- Types that are alike have one native type. -/
theorem mapType_eq_of_alike :
    ∀ {one two : WireType}, one.Alike two → mapType one = mapType two
  | _, _, .exchanged ofOne ofTwo => by
      rw [mapType_of_leafClass ofOne, mapType_of_leafClass ofTwo]
  | _, _, .bool => rfl
  | _, _, .address => rfl
  | _, _, .muxedAddress => rfl
  | _, _, .unknown _ => rfl
  | _, _, .option inner => congrArg NativeType.nullable (mapType_eq_of_alike inner)
  | _, _, .vec item => congrArg NativeType.sequence (mapType_eq_of_alike item)
  | _, _, .map keys values =>
      congrArg₂ NativeType.mapping (mapType_eq_of_alike keys) (mapType_eq_of_alike values)
  | _, _, .tuple items => congrArg NativeType.tuple (mapTypes_eq_of_alikeEach items)

/-- Lists of types that are alike have equal lists of native types. -/
theorem mapTypes_eq_of_alikeEach :
    ∀ {ones twos : List WireType}, AlikeEach ones twos → mapTypes ones = mapTypes twos
  | _, _, .nil => rfl
  | _, _, .cons here behind =>
      congrArg₂ List.cons (mapType_eq_of_alike here) (mapTypes_eq_of_alikeEach behind)

end

/-! ### Depths -/

mutual

theorem depth_mapType : ∀ type : WireType, (mapType type).depth = type.depth
  | .option inner => congrArg (1 + ·) (depth_mapType inner)
  | .vec item => congrArg (1 + ·) (depth_mapType item)
  | .map key value =>
      congrArg₂ (1 + max · ·) (depth_mapType key) (depth_mapType value)
  | .tuple items => congrArg (1 + ·) (depthOfItems_mapTypes items)
  | .bool | .i32 | .u32 | .i64 | .u64 | .timepoint | .duration | .i128 | .u128 | .i256 | .u256
  | .address | .muxedAddress | .string | .symbol | .unknown _ => rfl

theorem depthOfItems_mapTypes :
    ∀ types : List WireType, NativeType.depthOfItems (mapTypes types) = depthOfItems types
  | [] => rfl
  | type :: types => congrArg₂ max (depth_mapType type) (depthOfItems_mapTypes types)

end

end WireType

namespace SpecType

mutual

/-- How many declared types stand inside each other; a leaf has depth one, and what a result holds
does not count. -/
def depth : SpecType → Nat
  | .vec item => 1 + item.depth
  | .option inner => 1 + inner.depth
  | .map key value => 1 + max key.depth value.depth
  | .tuple items => 1 + depthOfItems items
  | _ => 1

/-- The greatest depth in a list of declared types. -/
def depthOfItems : List SpecType → Nat
  | [] => 0
  | item :: items => max item.depth (depthOfItems items)

end

end SpecType

namespace WireType

mutual

theorem depth_ofSpec : ∀ declared : SpecType, (ofSpec declared).depth = declared.depth
  | .option inner => congrArg (1 + ·) (depth_ofSpec inner)
  | .vec item => congrArg (1 + ·) (depth_ofSpec item)
  | .map key value => congrArg₂ (1 + max · ·) (depth_ofSpec key) (depth_ofSpec value)
  | .tuple items => congrArg (1 + ·) (depthOfItems_ofSpecs items)
  | .val | .bool | .void | .error | .u32 | .i32 | .u64 | .i64 | .timepoint | .duration | .u128
  | .i128 | .u256 | .i256 | .bytes | .string | .symbol | .address | .muxedAddress | .result _ _
  | .bytesN _ | .udt _ => rfl

theorem depthOfItems_ofSpecs :
    ∀ declared : List SpecType,
      depthOfItems (ofSpecs declared) = SpecType.depthOfItems declared
  | [] => rfl
  | type :: types => congrArg₂ max (depth_ofSpec type) (depthOfItems_ofSpecs types)

end

/-- Two wire types have one native type exactly if they are the same tree up to leaves of one class.
No depth is lost on the way from a declared type to its native type. -/
theorem mapType_exact (one two : WireType) (declared : SpecType) :
    (mapType one = mapType two ↔ one.Alike two) ∧
      (mapType one).depth = one.depth ∧
      (ofSpec declared).depth = declared.depth :=
  ⟨⟨alike_of_mapType_eq one, mapType_eq_of_alike⟩, depth_mapType one, depth_ofSpec declared⟩

end WireType

end ContractEvents
