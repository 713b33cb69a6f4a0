/-
Module: ContractEvents.Proofs.BinaryReading
Purpose: What a binary reader gives, step by step, and which bytes it reads as which value.
Main exports: Xdr.Reader.bind_ok, Xdr.Reader.bind_error, Xdr.Reader.Reads, Xdr.Reader.reads_blob,
  Xdr.Reader.reads_list, Xdr.Reader.Reads.unique, Xdr.Reader.runText_encode
-/
import ContractEvents.Proofs.TextSource
import ContractEvents.Xdr.Writer

namespace ContractEvents.Xdr

namespace Reader

variable {α β : Type} {reader : Reader α} {limit : Option Nat} {source rest : Source}

theorem bind_ok {value : α} (read : reader limit source = .ok (value, rest))
    (next : α → Reader β) : (reader >>= next) limit source = next value limit rest := by
  have unfolded : (reader >>= next) limit source =
      reader limit source >>= fun found => next found.1 limit found.2 := rfl
  rw [unfolded, read]
  rfl

theorem bind_error {fault : Fault} (refused : reader limit source = .error fault)
    (next : α → Reader β) : (reader >>= next) limit source = .error fault := by
  have unfolded : (reader >>= next) limit source =
      reader limit source >>= fun found => next found.1 limit found.2 := rfl
  rw [unfolded, refused]
  rfl

end Reader

/-!
A reader reads bytes as a value if it takes them, and no more, from whatever source they stand in
front of, bytes at hand or base64 text.  What two readers read one after the other is read by their
sequence, so the binary form of a record is read part by part.
-/

namespace Reader

variable {α β : Type} {reader : Reader α} {front back : Bytes} {value : α} {result : β}

/-- The reader takes the bytes from the front of others and gives the value. -/
def Reads (reader : Reader α) (bytes : Bytes) (value : α) : Prop :=
  ∀ (source : Source) (rest : Bytes), source.Holds (bytes ++ rest) →
    ∃ after, reader none source = .ok (value, after) ∧ after.Holds rest

theorem reads_pure (value : α) : Reads (pure value) [] value :=
  fun source _ holds => ⟨source, rfl, holds⟩

theorem Reads.bind (first : Reads reader front value) (next : α → Reader β)
    (second : Reads (next value) back result) : Reads (reader >>= next) (front ++ back) result := by
  intro source rest holds
  rw [List.append_assoc] at holds
  obtain ⟨middle, read, holdsBack⟩ := first source (back ++ rest) holds
  rw [bind_ok read]
  exact second middle rest holdsBack

/-- The value is put into a result, and nothing else is read. -/
theorem Reads.bind_pure (first : Reads reader front value) (f : α → β) :
    Reads (reader >>= fun found => pure (f found)) front (f value) := by
  have both := first.bind (fun found => pure (f found)) (reads_pure (f value))
  rwa [List.append_nil] at both

/-- A check that finds nothing wrong. -/
theorem Reads.unless {wrong : Prop} [Decidable wrong] (fine : ¬ wrong) (fault : Fault)
    (next : Unit → Reader β) (read : Reads (next ()) back result) :
    Reads (if wrong then fail fault >>= next else next ()) back result := by
  rw [if_neg fine]
  exact read

theorem Reads.nested (reads : Reads reader front value) : Reads (nested reader) front value := reads

/-- A reader gives one value for the same bytes. -/
theorem Reads.unique {other : α} (one : Reads reader front value)
    (two : Reads reader front other) : value = other := by
  have holds := Source.holds_ofBytes (front ++ [])
  obtain ⟨_, read, -⟩ := one _ [] holds
  obtain ⟨_, readOther, -⟩ := two _ [] holds
  have both := read.symm.trans readOther
  rw [Except.ok.injEq, Prod.mk.injEq] at both
  exact both.1

/-- A text is read as the value that the bytes which it spells are read as, if the reader does so
with as much room for nesting as there are bytes. -/
theorem runText_encode {readers : Nat → Reader α} {bs : Bytes}
    (reads : ∀ bound, bs.length ≤ bound → Reads (readers bound) bs value) :
    runText readers (Base64.encode bs) = .ok value := by
  have holds : (Source.ofText (Base64.encode bs)).Holds (bs ++ []) := by
    rw [List.append_nil]
    exact Source.holds_ofText bs
  have room : bs.length ≤ (Source.ofText (Base64.encode bs)).bound := by
    simp only [Source.bound, Source.ofText, Base64.encode_utf8, Base64.length_encodeSymbols,
      List.length_nil]
    omega
  obtain ⟨after, read, holdsNothing⟩ := reads _ room _ [] holds
  obtain ⟨rest, finished⟩ := exists_finish holdsNothing none
  simp only [runText, read, finished, bind, Except.bind]
  rfl

/-! ### Numbers and byte strings -/

theorem reads_bytes (bs : Bytes) : Reads (bytes bs.length) bs bs :=
  fun _ _ holds => Source.exists_take holds

theorem reads_bytes_of_length {bs : Bytes} {n : Nat} (length : bs.length = n) :
    Reads (bytes n) bs bs := by
  subst length
  exact reads_bytes bs

theorem reads_word (w : UInt32) : Reads word (Bytes.ofWord w) w := by
  have read := ((reads_bytes_of_length (Bytes.length_ofWord w)).bind_pure Bytes.toWord).nested
  rwa [Bytes.toWord_ofWord] at read

theorem reads_long (w : UInt64) : Reads long (Bytes.ofLong w) w := by
  have read := ((reads_bytes_of_length (Bytes.length_ofLong w)).bind_pure Bytes.toLong).nested
  rwa [Bytes.toLong_ofLong] at read

theorem reads_signedWord (n : Int32) : Reads signedWord (Bytes.ofWord n.toUInt32) n := by
  have read := ((reads_bytes_of_length (Bytes.length_ofWord n.toUInt32)).bind_pure
    fun bs => (Bytes.toWord bs).toInt32).nested
  rwa [Bytes.toWord_ofWord] at read

theorem reads_signedLong (n : Int64) : Reads signedLong (Bytes.ofLong n.toUInt64) n := by
  have read := ((reads_bytes_of_length (Bytes.length_ofLong n.toUInt64)).bind_pure
    fun bs => (Bytes.toLong bs).toInt64).nested
  rwa [Bytes.toLong_ofLong] at read

theorem reads_flag (b : Bool) : Reads flag (Xdr.flag b) b := by
  have read := ((reads_word (if b then 1 else 0)).bind_pure fun w => w == 1).nested
  cases b with
  | false => exact read
  | true => exact read

theorem reads_choice {read : UInt32 → Option α} {n : UInt32} (meaning : read n = some value) :
    Reads (choice read) (Bytes.ofWord n) value := by
  apply Reads.nested
  rw [← List.append_nil (Bytes.ofWord n)]
  apply (reads_word n).bind
  simp only [meaning]
  exact reads_pure value

theorem toNat_ofNat_of_le {n : Nat} (small : n ≤ unbounded) : (UInt32.ofNat n).toNat = n := by
  rw [UInt32.toNat_ofNat']
  exact Nat.mod_eq_of_lt (Nat.lt_succ_of_le small)

theorem reads_blob {max : Nat} {bs : Bytes} (small : bs.length ≤ unbounded)
    (allowed : bs.length ≤ max) : Reads (Reader.blob max) (Xdr.blob bs) bs := by
  have length := toNat_ofNat_of_le small
  have zeros : Reads (bytes (fill bs.length)) (List.replicate (fill bs.length) 0)
      (List.replicate (fill bs.length) 0) := reads_bytes_of_length List.length_replicate
  rw [Xdr.blob, List.append_assoc]
  apply Reads.nested
  apply (reads_word _).bind
  apply Reads.unless (by omega)
  rw [length]
  apply (reads_bytes bs).bind
  rw [← List.append_nil (List.replicate _ _)]
  apply zeros.bind
  apply Reads.unless (by simp)
  exact reads_pure bs

/-! ### Lists and values that may be absent -/

theorem Reads.cons {item : α} {items : List α} (first : Reads reader front item)
    (others : Reads (replicate reader items.length) back items) :
    Reads (replicate reader (item :: items).length) (front ++ back) (item :: items) :=
  first.bind _ (others.bind_pure (item :: ·))

theorem reads_list {max : Nat} {items : List α} (small : items.length ≤ unbounded)
    (allowed : items.length ≤ max) (read : Reads (replicate reader items.length) back items) :
    Reads (Reader.list max reader) (Bytes.ofWord (UInt32.ofNat items.length) ++ back) items := by
  have length := toNat_ofNat_of_le small
  apply Reads.nested
  apply (reads_word _).bind
  apply Reads.unless (by omega)
  rw [length]
  exact read

theorem reads_none (reader : Reader α) :
    Reads (Reader.optional reader) (Bytes.ofWord 0) none := by
  apply Reads.nested
  rw [← List.append_nil (Bytes.ofWord 0)]
  exact (reads_word 0).bind _ (reads_pure none)

theorem reads_some (read : Reads reader back value) :
    Reads (Reader.optional reader) (Bytes.ofWord 1 ++ back) (some value) := by
  apply Reads.nested
  exact (reads_word 1).bind _ (read.bind_pure some)

end Reader

end ContractEvents.Xdr
