/-
Module: ContractEvents.Proofs.ValueRoundTrip
Purpose: Every value reads back from its binary form and from its text.
Main exports: Value.Sized, Value.reads_write, Value.write_injective, Value.ofText_toText
-/
import ContractEvents.Proofs.BinaryReading
import ContractEvents.Value.Codec

namespace ContractEvents

open Xdr Xdr.Reader

/-!
The binary form holds every length in one word, so it can tell apart only values whose lengths fit.
Of those, each reads back from its binary form, by a reader that allows for as many levels of
nesting as the form has bytes.  So no two of them share a binary form.
-/

/-! ### The parts of values -/

theorem Hash.reads_bytes (hash : Hash) : Reads Hash.reader hash.bytes hash := by
  apply Reads.nested
  rw [← List.append_nil hash.bytes]
  apply (reads_bytes_of_length hash.length_eq).bind
  rw [dif_pos hash.length_eq]
  exact reads_pure hash

theorem ErrorValue.reads_write (e : ErrorValue) : Reads ErrorValue.reader e.write e := by
  apply Reads.nested
  cases e with
  | contract number =>
      have own_read : ErrorOrigin.ofNumber? 0 = some none := rfl
      exact (reads_choice own_read).bind _ ((reads_word number).bind_pure ErrorValue.contract)
  | host origin code =>
      have origin_read : ErrorOrigin.ofNumber? origin.number = some (some origin) := by
        cases origin <;> rfl
      have code_read : ErrorCode.ofNumber? code.number = some code := by
        cases code <;> rfl
      exact (reads_choice origin_read).bind _
        ((reads_choice code_read).bind_pure (ErrorValue.host origin))

namespace Address

theorem reads_onlyKind : Reads onlyKind (Bytes.ofWord 0) () := reads_choice rfl

theorem reads_write (a : Address) : Reads Address.reader a.write a := by
  apply Reads.nested
  cases a with
  | account key =>
      rw [write, List.append_assoc]
      exact (reads_choice rfl).bind _
        (reads_onlyKind.bind _ (key.reads_bytes.bind_pure Address.account))
  | contract id =>
      exact (reads_choice rfl).bind _ (id.reads_bytes.bind_pure Address.contract)
  | muxedAccount id key =>
      rw [write, List.append_assoc]
      exact (reads_choice rfl).bind _
        ((reads_long id).bind _ (key.reads_bytes.bind_pure (Address.muxedAccount id)))
  | claimableBalance id =>
      rw [write, List.append_assoc]
      exact (reads_choice rfl).bind _
        (reads_onlyKind.bind _ (id.reads_bytes.bind_pure Address.claimableBalance))
  | liquidityPool id =>
      exact (reads_choice rfl).bind _ (id.reads_bytes.bind_pure Address.liquidityPool)

end Address

theorem Executable.reads_write (executable : Executable) :
    Reads Executable.reader executable.write executable := by
  apply Reads.nested
  cases executable with
  | wasm hash => exact (reads_choice rfl).bind _ (hash.reads_bytes.bind_pure Executable.wasm)
  | asset =>
      rw [write, ← List.append_nil (Bytes.ofWord 1)]
      exact (reads_choice rfl).bind _ (reads_pure Executable.asset)

namespace Value

/-! ### Values -/

mutual

/-- Every length in the value fits into its binary form: a symbol has 32 bytes at most, and any
other length is one word.  No value on the wire is longer. -/
def Sized : Value → Prop
  | .bytes bs => bs.length ≤ unbounded
  | .string bs => bs.length ≤ unbounded
  | .symbol bs => bs.length ≤ maxSymbol
  | .vec (some items) => items.length ≤ unbounded ∧ SizedItems items
  | .map (some entries) => entries.length ≤ unbounded ∧ SizedEntries entries
  | .contractInstance _ (some entries) => entries.length ≤ unbounded ∧ SizedEntries entries
  | _ => True

/-- Every length in the values fits. -/
def SizedItems : List Value → Prop
  | [] => True
  | item :: items => item.Sized ∧ SizedItems items

/-- Every length in the keys and values fits. -/
def SizedEntries : List (Value × Value) → Prop
  | [] => True
  | (key, value) :: entries => key.Sized ∧ value.Sized ∧ SizedEntries entries

end

theorem sizedItems_iff {items : List Value} : SizedItems items ↔ ∀ item ∈ items, item.Sized := by
  induction items with
  | nil => simp [SizedItems]
  | cons item items inductionHypothesis =>
      rw [SizedItems, inductionHypothesis, List.forall_mem_cons]

theorem sizedEntries_iff {entries : List (Value × Value)} :
    SizedEntries entries ↔ ∀ entry ∈ entries, entry.1.Sized ∧ entry.2.Sized := by
  induction entries with
  | nil => simp [SizedEntries]
  | cons entry entries inductionHypothesis =>
      rw [SizedEntries, inductionHypothesis, List.forall_mem_cons, and_assoc]

theorem length_write_pos (value : Value) : 0 < value.write.length := by
  unfold write
  split <;> simp only [List.length_append, Bytes.length_ofWord] <;> omega

theorem reads_entry {part : Reader Value} {key value : Value} {front back : Bytes}
    (readsKey : Reads part front key) (readsValue : Reads part back value) :
    Reads (entryReader part) (front ++ back) (key, value) :=
  (readsKey.bind _ (readsValue.bind_pure (Prod.mk key))).nested

/-- Entries behind their length, present. -/
theorem reads_someEntries {part : Reader Value} {entries : List (Value × Value)} {back : Bytes}
    (small : entries.length ≤ unbounded)
    (reads : Reads (replicate (entryReader part) entries.length) back entries) :
    Reads (Reader.optional (Reader.list unbounded (entryReader part)))
      (Bytes.ofWord 1 ++ (Bytes.ofWord (UInt32.ofNat entries.length) ++ back)) (some entries) :=
  reads_some (reads_list small small reads)

mutual

/-- A value reads back from its binary form, by a reader that allows for as many levels of nesting
as the form has bytes. -/
theorem reads_write (value : Value) (sized : value.Sized) {bound : Nat}
    (room : value.write.length ≤ bound) : Reads (reader bound) value.write value := by
  obtain ⟨bound, rfl⟩ : ∃ levels, bound = levels + 1 :=
    Nat.exists_eq_add_one.mpr (Nat.lt_of_lt_of_le (length_write_pos value) room)
  rw [reader]
  apply Reads.nested
  cases value with
  | bool b => exact (reads_choice rfl).bind _ ((reads_flag b).bind_pure Value.bool)
  | void =>
      rw [write, ← List.append_nil (Bytes.ofWord 1)]
      exact (reads_choice rfl).bind _ (reads_pure Value.void)
  | error e => exact (reads_choice rfl).bind _ (e.reads_write.bind_pure Value.error)
  | u32 n => exact (reads_choice rfl).bind _ ((reads_word n).bind_pure Value.u32)
  | i32 n => exact (reads_choice rfl).bind _ ((reads_signedWord n).bind_pure Value.i32)
  | u64 n => exact (reads_choice rfl).bind _ ((reads_long n).bind_pure Value.u64)
  | i64 n => exact (reads_choice rfl).bind _ ((reads_signedLong n).bind_pure Value.i64)
  | timepoint t => exact (reads_choice rfl).bind _ ((reads_long t).bind_pure Value.timepoint)
  | duration d => exact (reads_choice rfl).bind _ ((reads_long d).bind_pure Value.duration)
  | u128 n =>
      rw [write, List.append_assoc]
      exact (reads_choice rfl).bind _ ((reads_long n.hi).bind _
        ((reads_long n.lo).bind_pure fun lo => Value.u128 ⟨n.hi, lo⟩))
  | i128 n =>
      rw [write, List.append_assoc]
      exact (reads_choice rfl).bind _ ((reads_signedLong n.hi).bind _
        ((reads_long n.lo).bind_pure fun lo => Value.i128 ⟨n.hi, lo⟩))
  | u256 n =>
      simp only [write, List.append_assoc]
      exact (reads_choice rfl).bind _ ((reads_long n.hiHi).bind _ ((reads_long n.hiLo).bind _
        ((reads_long n.loHi).bind _
          ((reads_long n.loLo).bind_pure fun loLo => Value.u256 ⟨n.hiHi, n.hiLo, n.loHi, loLo⟩))))
  | i256 n =>
      simp only [write, List.append_assoc]
      exact (reads_choice rfl).bind _ ((reads_signedLong n.hiHi).bind _
        ((reads_long n.hiLo).bind _ ((reads_long n.loHi).bind _
          ((reads_long n.loLo).bind_pure fun loLo => Value.i256 ⟨n.hiHi, n.hiLo, n.loHi, loLo⟩))))
  | bytes bs =>
      have small : bs.length ≤ unbounded := sized
      exact (reads_choice rfl).bind _ ((reads_blob small small).bind_pure Value.bytes)
  | string bs =>
      have small : bs.length ≤ unbounded := sized
      exact (reads_choice rfl).bind _ ((reads_blob small small).bind_pure Value.string)
  | symbol bs =>
      have short : bs.length ≤ maxSymbol := sized
      have small : bs.length ≤ unbounded := Nat.le_trans short (by decide)
      exact (reads_choice rfl).bind _ ((reads_blob small short).bind_pure Value.symbol)
  | vec items =>
      cases items with
      | none =>
          exact (reads_choice rfl).bind _ ((reads_none _).bind_pure Value.vec)
      | some items =>
          obtain ⟨small, sizedItems⟩ : items.length ≤ unbounded ∧ SizedItems items := sized
          simp only [write, List.length_append, Bytes.length_ofWord] at room
          have reads := reads_writeItems items sizedItems (show _ ≤ bound by omega)
          simp only [write, List.append_assoc]
          exact (reads_choice rfl).bind _
            ((reads_some (reads_list small small reads)).bind_pure Value.vec)
  | map entries =>
      cases entries with
      | none =>
          exact (reads_choice rfl).bind _ ((reads_none _).bind_pure Value.map)
      | some entries =>
          obtain ⟨small, sizedEntries⟩ : entries.length ≤ unbounded ∧ SizedEntries entries := sized
          simp only [write, List.length_append, Bytes.length_ofWord] at room
          have reads := reads_writeEntries entries sizedEntries (show _ ≤ bound by omega)
          simp only [write, List.append_assoc]
          exact (reads_choice rfl).bind _ ((reads_someEntries small reads).bind_pure Value.map)
  | address a => exact (reads_choice rfl).bind _ (a.reads_write.bind_pure Value.address)
  | contractInstance executable storage =>
      cases storage with
      | none =>
          rw [write, List.append_assoc]
          exact (reads_choice rfl).bind _ (executable.reads_write.bind _
            ((reads_none _).bind_pure (Value.contractInstance executable)))
      | some entries =>
          obtain ⟨small, sizedEntries⟩ : entries.length ≤ unbounded ∧ SizedEntries entries := sized
          simp only [write, List.length_append, Bytes.length_ofWord] at room
          have reads := reads_writeEntries entries sizedEntries (show _ ≤ bound by omega)
          simp only [write, List.append_assoc]
          exact (reads_choice rfl).bind _ (executable.reads_write.bind _
            ((reads_someEntries small reads).bind_pure (Value.contractInstance executable)))
  | ledgerKeyInstance =>
      rw [write, ← List.append_nil (Bytes.ofWord 20)]
      exact (reads_choice rfl).bind _ (reads_pure Value.ledgerKeyInstance)
  | ledgerKeyNonce nonce =>
      exact (reads_choice rfl).bind _ ((reads_signedLong nonce).bind_pure Value.ledgerKeyNonce)

theorem reads_writeItems (items : List Value) (sized : SizedItems items) {bound : Nat}
    (room : (writeItems items).length ≤ bound) :
    Reads (replicate (reader bound) items.length) (writeItems items) items := by
  cases items with
  | nil => exact reads_pure []
  | cons item items =>
      obtain ⟨sizedItem, sizedItems⟩ : item.Sized ∧ SizedItems items := sized
      rw [writeItems, List.length_append] at room
      rw [writeItems]
      exact (reads_write item sizedItem (by omega)).cons
        (reads_writeItems items sizedItems (by omega))

theorem reads_writeEntries (entries : List (Value × Value)) (sized : SizedEntries entries)
    {bound : Nat} (room : (writeEntries entries).length ≤ bound) :
    Reads (replicate (entryReader (reader bound)) entries.length) (writeEntries entries)
      entries := by
  cases entries with
  | nil => exact reads_pure []
  | cons entry entries =>
      obtain ⟨key, value⟩ := entry
      obtain ⟨sizedKey, sizedValue, sizedEntries⟩ :
        key.Sized ∧ value.Sized ∧ SizedEntries entries := sized
      rw [writeEntries, List.length_append, List.length_append] at room
      rw [writeEntries]
      have readsKey := reads_write key sizedKey (show _ ≤ bound by omega)
      have readsValue := reads_write value sizedValue (show _ ≤ bound by omega)
      exact (reads_entry readsKey readsValue).cons
        (reads_writeEntries entries sizedEntries (by omega))

end

/-- Two values with the same binary form are the same. -/
theorem write_injective {one two : Value} (sizedOne : one.Sized) (sizedTwo : two.Sized)
    (same : one.write = two.write) : one = two := by
  have readsOne := reads_write one sizedOne Nat.le.refl
  have readsTwo := reads_write two sizedTwo (Nat.le_of_eq (congrArg List.length same.symm))
  rw [← same] at readsTwo
  exact readsOne.unique readsTwo

/-- A value reads back from its text. -/
theorem ofText_toText {value : Value} (sized : value.Sized) : ofText value.toText = .ok value :=
  runText_encode fun _ room => reads_write value sized room

end Value

end ContractEvents
