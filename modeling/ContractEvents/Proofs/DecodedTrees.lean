/-
Module: ContractEvents.Proofs.DecodedTrees
Purpose: A value and its native form are the same tree, and the first node without one is reported.
Main exports: TreeStep, Value.node?, NativeValue.node?, Value.Undecodable, Value.SameTree,
  Value.decoding_exact
-/
import ContractEvents.Proofs.MapRendering

namespace ContractEvents

/-!
A node of a tree stands at a place, the steps that lead to it from the root.  Decoding takes every
node to the node at the same place, so the trees have the same places.  What stands in a value that
is passed through is at no place, for such a value is a leaf of both trees.
-/

/-- A step from a container to an item, or to the key or the value of an entry. -/
inductive TreeStep where
  | item (index : Nat)
  | key (index : Nat)
  | value (index : Nat)
deriving DecidableEq, Repr, Inhabited

/-- What a node holds: nothing, so many items, or so many entries. -/
inductive TreeWidth where
  | leaf
  | items (count : Nat)
  | entries (count : Nat)
deriving DecidableEq, Repr, Inhabited

namespace Value

/-- What a step leads to. -/
def child? : Value → TreeStep → Option Value
  | .vec (some items), .item index => items[index]?
  | .map (some entries), .key index => entries[index]?.map Prod.fst
  | .map (some entries), .value index => entries[index]?.map Prod.snd
  | _, _ => none

/-- The node at a place. -/
def node? : Value → List TreeStep → Option Value
  | value, [] => some value
  | value, step :: place => (value.child? step).bind fun child => child.node? place

/-- What the root of a value holds.  An absent vector or map holds nothing more than an empty
one. -/
def width : Value → TreeWidth
  | .vec items => .items (items.getD []).length
  | .map entries => .entries (entries.getD []).length
  | _ => .leaf

end Value

namespace NativeValue

/-- What a step leads to. -/
def child? : NativeValue → TreeStep → Option NativeValue
  | .vec items, .item index => items[index]?
  | .map entries, .key index => entries[index]?.map Prod.fst
  | .map entries, .value index => entries[index]?.map Prod.snd
  | _, _ => none

/-- The node at a place. -/
def node? : NativeValue → List TreeStep → Option NativeValue
  | native, [] => some native
  | native, step :: place => (native.child? step).bind fun child => child.node? place

/-- What the root of a native value holds. -/
def width : NativeValue → TreeWidth
  | .vec items => .items items.length
  | .map entries => .entries entries.length
  | _ => .leaf

end NativeValue

section Related

variable {α β γ δ : Type} {related : α → β → Prop}

theorem rel_getElem?_of_forall₂ {ones : List α} {twos : List β}
    (each : List.Forall₂ related ones twos) (index : Nat) :
    Option.Rel related ones[index]? twos[index]? := by
  induction each generalizing index with
  | nil => exact .none
  | cons here behind inductionHypothesis =>
      cases index with
      | zero => exact .some here
      | succ index => exact inductionHypothesis index

theorem rel_map {one : Option α} {two : Option β} (rel : Option.Rel related one two)
    {f : α → γ} {g : β → δ} {after : γ → δ → Prop}
    (mapped : ∀ a b, related a b → after (f a) (g b)) :
    Option.Rel after (one.map f) (two.map g) := by
  cases rel with
  | none => exact .none
  | some here => exact .some (mapped _ _ here)

end Related

namespace Value

/-! ### The first node without a native form -/

/-- A string or a symbol that is not UTF-8, or an address without a text, with its error. -/
inductive Undecodable : Value → ValueError → Prop where
  | string {bs : Bytes} {fault : Utf8.Fault} (invalid : Utf8.decode bs = .error fault) :
      Undecodable (.string bs) (.invalidUtf8 "String" fault)
  | symbol {bs : Bytes} {fault : Utf8.Fault} (invalid : Utf8.decode bs = .error fault) :
      Undecodable (.symbol bs) (.invalidUtf8 "Symbol" fault)
  | address {a : Address} {error : ValueError} (refused : a.encode = .error error) :
      Undecodable (.address a) error

theorem undecodable_iff {node : Value} {error : ValueError} :
    node.Undecodable error ↔ node.ownFault? = some error := by
  constructor
  · intro undecodable
    cases undecodable with
    | string invalid => rw [ownFault?, fault?_eq_some_iff.mpr invalid, Option.map_some]
    | symbol invalid => rw [ownFault?, fault?_eq_some_iff.mpr invalid, Option.map_some]
    | address refused => rw [← fault?_encode, fault?_eq_some_iff.mpr refused]
  · intro own
    cases node with
    | string bs =>
        obtain ⟨fault, invalid, rfl⟩ := Option.map_eq_some_iff.mp own
        exact .string (fault?_eq_some_iff.mp invalid)
    | symbol bs =>
        obtain ⟨fault, invalid, rfl⟩ := Option.map_eq_some_iff.mp own
        exact .symbol (fault?_eq_some_iff.mp invalid)
    | address a =>
        rw [← fault?_encode] at own
        exact .address (fault?_eq_some_iff.mp own)
    | _ => cases own

theorem ownFault?_eq_none_iff {node : Value} :
    node.ownFault? = none ↔ ∀ error, ¬ node.Undecodable error := by
  rw [Option.eq_none_iff_forall_ne_some]
  exact forall_congr' fun error => not_congr undecodable_iff.symm

theorem decode_eq_error_iff {value : Value} {error : ValueError} :
    value.decode = .error error ↔ ∃ before node behind,
      value.nodes = before ++ node :: behind ∧ node.Undecodable error ∧
        ∀ earlier ∈ before, ∀ other, ¬ earlier.Undecodable other := by
  rw [← fault?_eq_some_iff, fault?_decode, List.findSome?_eq_some_iff]
  simp only [ownFault?_eq_none_iff, undecodable_iff]

/-! ### Places and nodes -/

theorem mem_nodes_self (value : Value) : value ∈ value.nodes := by
  unfold nodes
  split <;> exact List.mem_cons_self

theorem mem_nodesOfItems_iff {items : List Value} {node : Value} :
    node ∈ nodesOfItems items ↔ ∃ item ∈ items, node ∈ item.nodes := by
  induction items with
  | nil => simp [nodesOfItems]
  | cons item items inductionHypothesis =>
      rw [nodesOfItems, List.mem_append, inductionHypothesis, List.exists_mem_cons_iff]

theorem mem_nodesOfEntries_iff {entries : List (Value × Value)} {node : Value} :
    node ∈ nodesOfEntries entries ↔
      ∃ entry ∈ entries, node ∈ entry.1.nodes ∨ node ∈ entry.2.nodes := by
  induction entries with
  | nil => simp [nodesOfEntries]
  | cons entry entries inductionHypothesis =>
      rw [nodesOfEntries, List.mem_append, List.mem_append, inductionHypothesis,
        List.exists_mem_cons_iff, or_assoc]

/-- The nodes below a step are nodes of the whole. -/
theorem mem_nodes_of_child? {value child node : Value} {step : TreeStep}
    (held : value.child? step = some child) (member : node ∈ child.nodes) :
    node ∈ value.nodes := by
  match value, step with
  | .vec (some items), .item index =>
      rw [nodes]
      exact List.mem_cons_of_mem _
        (mem_nodesOfItems_iff.mpr ⟨child, List.mem_of_getElem? held, member⟩)
  | .map (some entries), .key index =>
      obtain ⟨entry, found, rfl⟩ := Option.map_eq_some_iff.mp held
      rw [nodes]
      exact List.mem_cons_of_mem _
        (mem_nodesOfEntries_iff.mpr ⟨entry, List.mem_of_getElem? found, .inl member⟩)
  | .map (some entries), .value index =>
      obtain ⟨entry, found, rfl⟩ := Option.map_eq_some_iff.mp held
      rw [nodes]
      exact List.mem_cons_of_mem _
        (mem_nodesOfEntries_iff.mpr ⟨entry, List.mem_of_getElem? found, .inr member⟩)

theorem mem_nodes_of_node? {value node : Value} {place : List TreeStep}
    (found : value.node? place = some node) : node ∈ value.nodes := by
  induction place generalizing value with
  | nil =>
      obtain rfl := Option.some.inj found
      exact mem_nodes_self value
  | cons step place inductionHypothesis =>
      obtain ⟨child, held, found⟩ := Option.bind_eq_some_iff.mp found
      exact mem_nodes_of_child? held (inductionHypothesis found)

theorem node?_of_child? {value child node : Value} {step : TreeStep} {place : List TreeStep}
    (held : value.child? step = some child) (found : child.node? place = some node) :
    value.node? (step :: place) = some node := by
  rw [node?, held, Option.bind_some, found]

mutual

/-- Every node stands at a place. -/
theorem exists_place (value : Value) {node : Value} (member : node ∈ value.nodes) :
    ∃ place, value.node? place = some node := by
  match value with
  | .vec (some items) =>
      rcases List.mem_cons.mp member with rfl | member
      · exact ⟨[], rfl⟩
      · obtain ⟨index, item, place, held, found⟩ := exists_place_of_items items member
        exact ⟨.item index :: place, node?_of_child? held found⟩
  | .map (some entries) =>
      rcases List.mem_cons.mp member with rfl | member
      · exact ⟨[], rfl⟩
      · obtain ⟨index, entry, place, held, found | found⟩ :=
          exists_place_of_entries entries member
        · exact ⟨.key index :: place,
            node?_of_child? (Option.map_eq_some_iff.mpr ⟨entry, held, rfl⟩) found⟩
        · exact ⟨.value index :: place,
            node?_of_child? (Option.map_eq_some_iff.mpr ⟨entry, held, rfl⟩) found⟩
  | .string _ | .symbol _ | .address _ | .bool _ | .void | .error _ | .u32 _ | .i32 _ | .u64 _
  | .i64 _ | .timepoint _ | .duration _ | .u128 _ | .i128 _ | .u256 _ | .i256 _ | .bytes _
  | .vec none | .map none | .contractInstance .. | .ledgerKeyInstance | .ledgerKeyNonce _ =>
      obtain rfl := List.mem_singleton.mp member
      exact ⟨[], rfl⟩

theorem exists_place_of_items (items : List Value) {node : Value}
    (member : node ∈ nodesOfItems items) :
    ∃ (index : Nat) (item : Value) (place : List TreeStep),
      items[index]? = some item ∧ item.node? place = some node := by
  match items with
  | item :: items =>
      rw [nodesOfItems, List.mem_append] at member
      rcases member with here | behind
      · obtain ⟨place, found⟩ := exists_place item here
        exact ⟨0, item, place, rfl, found⟩
      · obtain ⟨index, other, place, held, found⟩ := exists_place_of_items items behind
        exact ⟨index + 1, other, place, held, found⟩

theorem exists_place_of_entries (entries : List (Value × Value)) {node : Value}
    (member : node ∈ nodesOfEntries entries) :
    ∃ (index : Nat) (entry : Value × Value) (place : List TreeStep),
      entries[index]? = some entry ∧
        (entry.1.node? place = some node ∨ entry.2.node? place = some node) := by
  match entries with
  | (key, value) :: entries =>
      rw [nodesOfEntries, List.mem_append, List.mem_append] at member
      rcases member with ofKey | ofValue | behind
      · obtain ⟨place, found⟩ := exists_place key ofKey
        exact ⟨0, (key, value), place, rfl, .inl found⟩
      · obtain ⟨place, found⟩ := exists_place value ofValue
        exact ⟨0, (key, value), place, rfl, .inr found⟩
      · obtain ⟨index, other, place, held, found⟩ := exists_place_of_entries entries behind
        exact ⟨index + 1, other, place, held, found⟩

end

/-- The nodes of a value are what steps lead to. -/
theorem mem_nodes_iff {value node : Value} :
    node ∈ value.nodes ↔ ∃ place, value.node? place = some node :=
  ⟨exists_place value, fun ⟨_, found⟩ => mem_nodes_of_node? found⟩

/-! ### The tree of the native form -/

theorem decodeItems_eq_ok_iff {items : List Value} {natives : List NativeValue} :
    decodeItems items = .ok natives ↔
      List.Forall₂ (fun item native => item.decode = .ok native) items natives := by
  induction items generalizing natives with
  | nil => simp [decodeItems, eq_comm]
  | cons item items inductionHypothesis =>
      rw [decodeItems_cons_eq_ok_iff, List.forall₂_cons_left_iff]
      constructor
      · rintro ⟨native, others, rfl, first, behind⟩
        exact ⟨native, others, first, inductionHypothesis.mp behind, rfl⟩
      · rintro ⟨native, others, first, behind, rfl⟩
        exact ⟨native, others, rfl, first, inductionHypothesis.mpr behind⟩

/-- A value and a native value hold equally much, and every step leads from them to a value and its
native form. -/
structure Level (value : Value) (native : NativeValue) : Prop where
  width : value.width = native.width
  step : ∀ step, Option.Rel (fun child part => child.decode = .ok part) (value.child? step)
    (native.child? step)

theorem level_of_items {items : List Value} {natives : List NativeValue}
    (decoded : decodeItems items = .ok natives) :
    Level (.vec (some items)) (.vec natives) := by
  have each := decodeItems_eq_ok_iff.mp decoded
  refine ⟨congrArg TreeWidth.items each.length_eq, ?_⟩
  intro step
  cases step with
  | item index => exact rel_getElem?_of_forall₂ each index
  | key index => exact .none
  | value index => exact .none

theorem level_of_entries {entries : List (Value × Value)}
    {natives : List (NativeValue × NativeValue)} (decoded : decodeEntries entries = .ok natives) :
    Level (.map (some entries)) (.map natives) := by
  have each := decodeEntries_eq_ok_iff.mp decoded
  refine ⟨congrArg TreeWidth.entries each.length_eq, ?_⟩
  intro step
  cases step with
  | item index => exact .none
  | key index => exact rel_map (rel_getElem?_of_forall₂ each index) fun _ _ here => here.1
  | value index => exact rel_map (rel_getElem?_of_forall₂ each index) fun _ _ here => here.2

theorem level_of_decode {value : Value} {native : NativeValue}
    (decoded : value.decode = .ok native) : Level value native := by
  cases value with
  | vec items =>
      cases items with
      | none =>
          cases decoded
          exact ⟨rfl, fun step => by cases step <;> exact .none⟩
      | some items =>
          obtain ⟨natives, decodedItems, rfl⟩ := map_eq_ok_iff.mp decoded
          exact level_of_items decodedItems
  | map entries =>
      cases entries with
      | none =>
          cases decoded
          exact ⟨rfl, fun step => by cases step <;> exact .none⟩
      | some entries =>
          obtain ⟨natives, decodedEntries, rfl⟩ := map_eq_ok_iff.mp decoded
          exact level_of_entries decodedEntries
  | string _ | symbol _ | address _ =>
      obtain ⟨text, -, rfl⟩ := map_eq_ok_iff.mp decoded
      exact ⟨rfl, fun _ => .none⟩
  | _ =>
      cases decoded
      exact ⟨rfl, fun _ => .none⟩

/-- At every place there is a node in both trees, the one in the second being the native form of the
one in the first and holding equally many items or entries, or there is none in either. -/
def SameTree (value : Value) (native : NativeValue) : Prop :=
  ∀ place, Option.Rel (fun node part => node.decode = .ok part ∧ node.width = part.width)
    (value.node? place) (native.node? place)

theorem sameTree_of_decode {value : Value} {native : NativeValue}
    (decoded : value.decode = .ok native) : SameTree value native := by
  intro place
  induction place generalizing value native with
  | nil => exact .some ⟨decoded, (level_of_decode decoded).width⟩
  | cons step place inductionHypothesis =>
      have children := (level_of_decode decoded).step step
      rw [node?, NativeValue.node?]
      generalize value.child? step = child at children ⊢
      generalize native.child? step = part at children ⊢
      cases children with
      | none => exact .none
      | some decodedChild => exact inductionHypothesis decodedChild

/-- A node of a native form comes from the node at its place. -/
theorem SameTree.exists_node {value : Value} {native part : NativeValue} {place : List TreeStep}
    (same : SameTree value native) (found : native.node? place = some part) :
    ∃ node, value.node? place = some node ∧ node.decode = .ok part := by
  have here := same place
  rw [found] at here
  generalize value.node? place = node? at here ⊢
  cases here with
  | some related => exact ⟨_, rfl, related.1⟩

/-- What is known of the decoding of a value. -/
structure Decoding (value : Value) : Prop where
  /-- It fails just when steps through vectors and maps lead to an undecodable node. -/
  fails : (∃ error, value.decode = .error error) ↔
    ∃ place node error, value.node? place = some node ∧ node.Undecodable error
  /-- The error is that of the first such node in depth-first order, whatever stands behind it. -/
  first : ∀ error, value.decode = .error error ↔ ∃ before node behind,
    value.nodes = before ++ node :: behind ∧ node.Undecodable error ∧
      ∀ earlier ∈ before, ∀ other, ¬ earlier.Undecodable other
  /-- The nodes in that order are those that steps lead to. -/
  reached : ∀ node, node ∈ value.nodes ↔ ∃ place, value.node? place = some node
  /-- The native form has the same tree. -/
  tree : ∀ native, value.decode = .ok native → SameTree value native

/-- Decoding fails with the error of the first undecodable node, and keeps the tree if there is
none. -/
theorem decoding_exact (value : Value) : value.Decoding where
  fails := by
    constructor
    · rintro ⟨error, failed⟩
      obtain ⟨before, node, behind, nodes, undecodable, -⟩ := decode_eq_error_iff.mp failed
      have member : node ∈ value.nodes := by
        rw [nodes]
        exact List.mem_append_right _ List.mem_cons_self
      obtain ⟨place, found⟩ := exists_place value member
      exact ⟨place, node, error, found, undecodable⟩
    · rintro ⟨place, node, error, found, undecodable⟩
      cases decoded : value.decode with
      | error first => exact ⟨first, rfl⟩
      | ok native =>
          have none_has := decodable_iff.mp ⟨native, decoded⟩ node (mem_nodes_of_node? found)
          exact absurd undecodable (ownFault?_eq_none_iff.mp none_has error)
  first := fun _ => decode_eq_error_iff
  reached := fun _ => mem_nodes_iff
  tree := fun _ => sameTree_of_decode

/-- A bad key is reported in front of the bad value behind it, however deep it stands. -/
example : (vec (some [.u32 1, .map (some [(.vec (some [.symbol [0xFF]]),
    .address (.liquidityPool default))])])).decode =
      .error (.invalidUtf8 "Symbol" (.illFormed 1 0)) := rfl

end Value

end ContractEvents
