/-
Module: ContractEvents.Proofs.NativeForms
Purpose: Which values have a native form, and what fields of any type give for them.
Main exports: Value.nodes, Value.fault?_decode, Value.Legible, Value.NativeForm,
  Value.nativeForm_of_legible
-/
import ContractEvents.Proofs.SteadyReading
import ContractEvents.Proofs.TypeConformance

namespace ContractEvents

/-!
Decoding a value goes through its nodes in stored order and stops at the first that has no native
form.  Only strings, symbols and addresses can be such nodes: everything else has a native form of
its own, or is passed through with its tag and its binary form.  Strings and symbols fail when they
are not UTF-8, addresses when they are of a claimable balance or of a liquidity pool.
-/

section Faults

variable {ε α β : Type}

/-- The error of an attempt that fails. -/
def fault? : Except ε α → Option ε
  | .error fault => some fault
  | .ok _ => none

theorem fault?_eq_some_iff {attempt : Except ε α} {fault : ε} :
    fault? attempt = some fault ↔ attempt = .error fault := by
  cases attempt <;> simp [fault?]

theorem fault?_eq_none_iff {attempt : Except ε α} :
    fault? attempt = none ↔ ∃ value, attempt = .ok value := by
  cases attempt <;> simp [fault?]

theorem fault?_map (f : α → β) (attempt : Except ε α) :
    fault? (f <$> attempt) = fault? attempt := by
  cases attempt <;> rfl

theorem fault?_mapError {φ : Type} (f : ε → φ) (attempt : Except ε α) :
    fault? (attempt.mapError f) = (fault? attempt).map f := by
  cases attempt <;> rfl

/-- The fault of two attempts, the second of which is made only if the first succeeds, and then
fails alike whatever the first gave. -/
theorem fault?_bind {attempt : Except ε α} {next : α → Except ε β} {later : Option ε}
    (alike : ∀ value, fault? (next value) = later) :
    fault? (attempt >>= next) = (fault? attempt).or later := by
  cases attempt with
  | error fault => rfl
  | ok value => exact alike value

end Faults

namespace Value

mutual

/-- The nodes of a value in stored order, each container in front of what it holds and each key in
front of its value.  What stands in a contract instance is not looked at. -/
def nodes : Value → List Value
  | .vec (some items) => .vec (some items) :: nodesOfItems items
  | .map (some entries) => .map (some entries) :: nodesOfEntries entries
  | leaf => [leaf]

/-- The nodes of items. -/
def nodesOfItems : List Value → List Value
  | [] => []
  | item :: items => item.nodes ++ nodesOfItems items

/-- The nodes of entries. -/
def nodesOfEntries : List (Value × Value) → List Value
  | [] => []
  | (key, value) :: entries => key.nodes ++ (value.nodes ++ nodesOfEntries entries)

end

/-- The address of a claimable balance or of a liquidity pool. -/
def isUnwritten : Value → Bool
  | .address (.claimableBalance _) | .address (.liquidityPool _) => true
  | _ => false

/-- Why a node has no native form, whatever it holds. -/
def ownFault? (node : Value) : Option ValueError :=
  match node with
  | .string bs => (fault? (Utf8.decode bs)).map (.invalidUtf8 "String")
  | .symbol bs => (fault? (Utf8.decode bs)).map (.invalidUtf8 "Symbol")
  | other => if other.isUnwritten then some (.unsupported "Address") else none

theorem fault?_encode (a : Address) : fault? a.encode = (Value.address a).ownFault? := by
  cases a <;> rfl

mutual

/-- Decoding a value fails with the fault of its first node that has one. -/
theorem fault?_decode (value : Value) : fault? value.decode = value.nodes.findSome? ownFault? := by
  match value with
  | .vec (some items) =>
      rw [decode, nodes, fault?_map, fault?_decodeItems items]
      rfl
  | .map (some entries) =>
      rw [decode, nodes, fault?_map, fault?_decodeEntries entries]
      rfl
  | .string bs =>
      rw [decode, fault?_map, textOfBytes, fault?_mapError]
      simp [nodes, ownFault?]
  | .symbol bs =>
      rw [decode, fault?_map, textOfBytes, fault?_mapError]
      simp [nodes, ownFault?]
  | .address a =>
      rw [decode, fault?_map, fault?_encode]
      simp [nodes]
  | .bool _ | .void | .error _ | .u32 _ | .i32 _ | .u64 _ | .i64 _ | .timepoint _ | .duration _
  | .u128 _ | .i128 _ | .u256 _ | .i256 _ | .bytes _ | .vec none | .map none
  | .contractInstance .. | .ledgerKeyInstance | .ledgerKeyNonce _ =>
      simp [decode, nodes, fault?, ownFault?, isUnwritten]

theorem fault?_decodeItems (items : List Value) :
    fault? (decodeItems items) = (nodesOfItems items).findSome? ownFault? := by
  match items with
  | [] => rfl
  | item :: items =>
      rw [decodeItems, nodesOfItems, List.findSome?_append, ← fault?_decode item,
        ← fault?_decodeItems items]
      apply fault?_bind
      intro first
      exact fault?_map ..

theorem fault?_decodeEntries (entries : List (Value × Value)) :
    fault? (decodeEntries entries) = (nodesOfEntries entries).findSome? ownFault? := by
  match entries with
  | [] => rfl
  | (key, value) :: entries =>
      rw [decodeEntries, nodesOfEntries, List.findSome?_append, List.findSome?_append,
        ← fault?_decode key, ← fault?_decode value, ← fault?_decodeEntries entries]
      apply fault?_bind
      intro k
      apply fault?_bind
      intro v
      exact fault?_map ..

end

/-- A value has a native form if each of its nodes has one. -/
theorem decodable_iff {value : Value} :
    value.Decodable ↔ ∀ node ∈ value.nodes, node.ownFault? = none := by
  rw [Decodable, ← fault?_eq_none_iff, fault?_decode, List.findSome?_eq_none_iff]

/-- Every string and every symbol in a value is UTF-8. -/
def Legible (value : Value) : Prop :=
  ∀ node ∈ value.nodes, ∀ bs, node = .string bs ∨ node = .symbol bs →
    ∃ text, Utf8.decode bs = .ok text

/-- A node of a legible value lacks a native form only as an address. -/
theorem ownFault?_of_legible {value node : Value} (legible : value.Legible)
    (member : node ∈ value.nodes) :
    node.ownFault? = if node.isUnwritten then some (.unsupported "Address") else none := by
  cases node with
  | string bs =>
      obtain ⟨text, valid⟩ := legible _ member bs (.inl rfl)
      simp [ownFault?, isUnwritten, valid, fault?]
  | symbol bs =>
      obtain ⟨text, valid⟩ := legible _ member bs (.inr rfl)
      simp [ownFault?, isUnwritten, valid, fault?]
  | _ => rfl

theorem decodable_iff_of_legible {value : Value} (legible : value.Legible) :
    value.Decodable ↔ ∀ node ∈ value.nodes, node.isUnwritten = false := by
  rw [decodable_iff]
  constructor
  · intro faultless node member
    have none_here := faultless node member
    rw [ownFault?_of_legible legible member] at none_here
    cases unwritten : node.isUnwritten with
    | false => rfl
    | true => simp [unwritten] at none_here
  · intro written node member
    rw [ownFault?_of_legible legible member, written node member]
    rfl

/-- What a legible value fails with. -/
theorem decode_eq_error_iff_of_legible {value : Value} (legible : value.Legible)
    {fault : ValueError} :
    value.decode = .error fault ↔
      (∃ node ∈ value.nodes, node.isUnwritten = true) ∧ fault = .unsupported "Address" := by
  constructor
  · intro failed
    rw [← fault?_eq_some_iff, fault?_decode] at failed
    obtain ⟨node, member, own⟩ := List.exists_of_findSome?_eq_some failed
    rw [ownFault?_of_legible legible member] at own
    cases unwritten : node.isUnwritten with
    | false => simp [unwritten] at own
    | true =>
        rw [unwritten, if_pos rfl, Option.some.injEq] at own
        exact ⟨⟨node, member, unwritten⟩, own.symm⟩
  · rintro ⟨⟨node, member, unwritten⟩, rfl⟩
    cases decoded : value.decode with
    | ok native =>
        have written := (decodable_iff_of_legible legible).mp ⟨native, decoded⟩ node member
        rw [unwritten] at written
        cases written
    | error other =>
        rw [← fault?_eq_some_iff, fault?_decode] at decoded
        obtain ⟨first, memberFirst, own⟩ := List.exists_of_findSome?_eq_some decoded
        rw [ownFault?_of_legible legible memberFirst] at own
        cases here : first.isUnwritten with
        | false => simp [here] at own
        | true =>
            rw [here, if_pos rfl, Option.some.injEq] at own
            rw [own]

/-- Is a value passed through, with its tag and its binary form for a native form? -/
def isPassedThrough : Value → Bool
  | .error _ | .contractInstance .. | .ledgerKeyInstance | .ledgerKeyNonce _ => true
  | _ => false

theorem decode_eq_raw_iff {value : Value} {tag xdr : String} :
    value.decode = .ok (.raw tag xdr) ↔
      value.isPassedThrough = true ∧ tag = value.tag ∧ xdr = value.toText := by
  cases value with
  | vec items => cases items <;> simp [decode, isPassedThrough, map_eq_ok_iff]
  | map entries => cases entries <;> simp [decode, isPassedThrough, map_eq_ok_iff]
  | string bs => simp [decode, isPassedThrough, map_eq_ok_iff]
  | symbol bs => simp [decode, isPassedThrough, map_eq_ok_iff]
  | address a => simp [decode, isPassedThrough, map_eq_ok_iff]
  | _ => simp [decode, isPassedThrough, eq_comm]

/-- What is known of the native form of a legible value. -/
structure NativeForm (value : Value) : Prop where
  /-- It exists unless there is an address in the value that has no text. -/
  decodable : value.Decodable ↔ ∀ node ∈ value.nodes, node.isUnwritten = false
  /-- Such an address is the only thing that it can fail for. -/
  fails : ∀ fault, value.decode = .error fault ↔
    (∃ node ∈ value.nodes, node.isUnwritten = true) ∧ fault = .unsupported "Address"
  /-- It is raw just for the kinds of values that are passed through. -/
  raw : ∀ tag xdr, value.decode = .ok (.raw tag xdr) ↔
    value.isPassedThrough = true ∧ tag = value.tag ∧ xdr = value.toText
  /-- It is what a field of any type gives that is bound to the value, after whatever calls. -/
  read : ∀ {σ : Type} {descriptor : EventDescriptor} {record : EventRecord} {before after : σ}
    {event : DecodedEvent},
    ((EventDecoder.compile descriptor).decode .native record).run.run before = (.ok event, after) →
      ∀ (state now : σ) (calls : List FieldCall) (field tag : String) {declared : EventField},
        descriptor.field? field = some declared → declared.type = .unknown tag →
          event.raw? field = some value →
            ∃ last next, (DecodedEvent.get .native field).outcome
                ((Session.start event state).run .native calls).event now =
              ((value.decode.mapError (.decode field), last), next)

/-- Legible values have a native form, and fields of any type give it, up to addresses of claimable
balances and liquidity pools, for which there is none. -/
theorem nativeForm_of_legible (value : Value) (legible : value.Legible) : value.NativeForm where
  decodable := decodable_iff_of_legible legible
  fails := fun _ => decode_eq_error_iff_of_legible legible
  raw := fun _ _ => decode_eq_raw_iff
  read := by
    intro σ descriptor record before after event decoded state now calls field tag declared found
      typed bound
    obtain ⟨last, next, read⟩ := Session.get_after_run decoded
      (ValueDecoder.steady_ofFunction decode) state calls found bound now
    rw [typed, mapType, NativeType.receive_any] at read
    exact ⟨last, next, read⟩

private def snapshot : EventDescriptor where
  name := "snapshot"
  prefixTopics := ["snap"]
  fields := [⟨"held", .unknown "Val", .payload, none⟩]
  payloadShape := .singleValue

/-- The record of a snapshot that holds a value. -/
private def snapshotOf (held : Value) : EventRecord where
  topics := [.symbol [0x73, 0x6E, 0x61, 0x70]]
  payload := held

private theorem snapshot_decoded (held : Value) :
    ((EventDecoder.compile snapshot).decode .native (snapshotOf held)).run.run () =
      (.ok (.ofRaw (EventDecoder.compile snapshot).layout [held]), ()) := rfl

private def snapshotItems : Value :=
  .vec (some [.ledgerKeyNonce 1, .map (some [(.symbol [0x61], .address (.account default))])])

private theorem snapshotItems_legible : snapshotItems.Legible := by
  intro node member bs text
  simp only [snapshotItems, nodes, nodesOfItems, nodesOfEntries, List.mem_cons, List.mem_append,
    List.not_mem_nil, or_false] at member
  rcases member with rfl | rfl | rfl | rfl | rfl <;> simp at text
  subst bs
  exact ⟨"a", rfl⟩

/-- A nonce and the address of an account, inside a vector and a map, are read from a field of any
type, the nonce as raw. -/
theorem nativeForm_of_legible_snapshot :
    snapshotItems.Legible ∧ snapshotItems.NativeForm ∧
      ∃ event last address,
        ((EventDecoder.compile snapshot).decode .native (snapshotOf snapshotItems)).run.run () =
            (.ok event, ()) ∧
          (DecodedEvent.get .native "held").outcome
              ((Session.start event ()).run .native [.toJson]).event () =
            ((.ok (.vec [.raw "LedgerKeyNonce" "AAAAFQAAAAAAAAAB",
              .map [(.string "a", .address address)]]), last), ()) := by
  have known := nativeForm_of_legible snapshotItems snapshotItems_legible
  obtain ⟨last, next, read⟩ := known.read (snapshot_decoded snapshotItems) () () [.toJson]
    "held" "Val" rfl rfl rfl
  exact ⟨snapshotItems_legible, known, _, last, _, snapshot_decoded snapshotItems, read⟩

/-- The address of a claimable balance is legible, but has no native form, and a field of any type
that is bound to it cannot be read. -/
theorem claimableBalance_unreadable :
    ∃ value event last,
      value = .address (.claimableBalance default) ∧ value.Legible ∧
        value.decode = .error (.unsupported "Address") ∧
        ((EventDecoder.compile snapshot).decode .native (snapshotOf value)).run.run () =
          (.ok event, ()) ∧
        snapshot.field? "held" = some ⟨"held", .unknown "Val", .payload, none⟩ ∧
        event.raw? "held" = some value ∧
        (DecodedEvent.get .native "held").outcome event () =
          ((.error (.decode "held" (.unsupported "Address")), last), ()) := by
  refine ⟨_, _, _, rfl, ?_, rfl, snapshot_decoded _, rfl, rfl, rfl⟩
  intro node member bs text
  rw [nodes, List.mem_singleton] at member
  · subst member
    simp at text
  · simp
  · simp

end Value

end ContractEvents
