/-
Module: ContractEvents.Proofs.InterfaceText
Purpose: How the byte strings of an interface read as text, as names and as decoded values.
Main exports: Bytes.Plain, Bytes.Verbatim, Bytes.asciiText, Escaped.encode_injective,
  Escaped.encode_of_verbatim, Utf8.decode_of_verbatim, Value.decode_symbol_of_plain
-/
import ContractEvents.Decoding.ValueDecoder
import ContractEvents.Text.Escaped
import Mathlib.Tactic.SplitIfs

namespace ContractEvents

/-!
A name of an interface reaches a descriptor in its escaped spelling and a record as the bytes of a
symbol, which are decoded as UTF-8.  Two byte strings never share a spelling, and where a name needs
no escapes, as a plain one does not, the spelling and the decoded text are the same.
-/

/-- A letter, a digit or the underscore. -/
def Bytes.isPlainByte (b : UInt8) : Bool :=
  (0x61 ≤ b && b ≤ 0x7A) || (0x41 ≤ b && b ≤ 0x5A) || (0x30 ≤ b && b ≤ 0x39) || b == 0x5F

/-- A byte string has only letters, digits and underscores. -/
def Bytes.Plain (bs : Bytes) : Prop := ∀ b ∈ bs, Bytes.isPlainByte b = true

instance (bs : Bytes) : Decidable bs.Plain := List.decidableBAll _ bs

/-- The text with one character for each byte. -/
def Bytes.asciiText (bs : Bytes) : String := String.ofList (bs.map fun b => Char.ofNat b.toNat)

/-- A printable byte of ASCII other than the backslash. -/
def Bytes.isVerbatimByte (b : UInt8) : Bool := 0x20 ≤ b && b ≤ 0x7E && b != 0x5C

/-- A byte string needs no escapes. -/
def Bytes.Verbatim (bs : Bytes) : Prop := ∀ b ∈ bs, Bytes.isVerbatimByte b = true

instance (bs : Bytes) : Decidable bs.Verbatim := List.decidableBAll _ bs

theorem Bytes.isVerbatimByte_iff {b : UInt8} :
    Bytes.isVerbatimByte b = true ↔ (0x20 ≤ b ∧ b ≤ 0x7E) ∧ b ≠ 0x5C := by
  simp [Bytes.isVerbatimByte]

theorem Bytes.Plain.verbatim {bs : Bytes} (plain : bs.Plain) : bs.Verbatim := by
  intro b member
  have here := plain b member
  simp only [Bytes.isPlainByte, Bool.or_eq_true, Bool.and_eq_true, decide_eq_true_eq, beq_iff_eq,
    UInt8.le_iff_toNat_le, ← UInt8.toNat_inj, UInt8.reduceToNat] at here
  simp only [Bytes.isVerbatimByte_iff, UInt8.le_iff_toNat_le, Ne, ← UInt8.toNat_inj,
    UInt8.reduceToNat]
  omega

namespace Utf8

theorem toNat_charOfNat {n : Nat} (valid : n.isValidChar) : (Char.ofNat n).toNat = n := by
  rw [Char.ofNat, dif_pos valid]
  rfl

/-- A byte of ASCII spells the character of its number. -/
theorem encodeChar_of_ascii {b : UInt8} (ascii : b.toNat < 0x80) :
    encodeChar (Char.ofNat b.toNat) = [b] := by
  have code := toNat_charOfNat (.inl (Nat.lt_trans ascii (by decide)))
  rw [encodeChar, code]
  simp only [if_pos ascii, UInt8.ofNat_toNat]

/-- Bytes of ASCII spell the characters of their numbers. -/
theorem encodeChars_of_ascii {bs : Bytes} (ascii : ∀ b ∈ bs, b.toNat < 0x80) :
    encodeChars (bs.map fun b => Char.ofNat b.toNat) = bs := by
  rw [encodeChars]
  induction bs with
  | nil => rfl
  | cons b bs inductionHypothesis =>
      rw [List.map_cons, List.flatMap_cons, encodeChar_of_ascii (ascii b List.mem_cons_self),
        inductionHypothesis fun other member => ascii other (List.mem_cons_of_mem _ member)]
      rfl

end Utf8

namespace Escaped

theorem decodeChars?_cons_of_ne {c : Char} (rest : List Char) (not_backslash : c ≠ '\\') :
    decodeChars? (c :: rest) = (Utf8.encodeChar c ++ ·) <$> decodeChars? rest := by
  rw [decodeChars?]
  · simp [not_backslash]
  all_goals simp [not_backslash]

/-- What follows the spelling of a byte is read as if it stood alone. -/
theorem decodeChars?_encodeByte_append (b : UInt8) (rest : List Char) :
    decodeChars? (encodeByte b ++ rest) = (b :: ·) <$> decodeChars? rest := by
  unfold encodeByte
  split_ifs with nul tab feed carriage backslash printable
  · subst b
    simp [decodeChars?]
  · subst b
    simp [decodeChars?]
  · subst b
    simp [decodeChars?]
  · subst b
    simp [decodeChars?]
  · subst b
    simp [decodeChars?]
  · have ascii : b.toNat < 0x80 := by
      have bound := UInt8.le_iff_toNat_le.mp printable.2
      simp at bound
      omega
    have not_backslash : Char.ofNat b.toNat ≠ '\\' := by
      intro same
      have code := congrArg Char.toNat same
      rw [Utf8.toNat_charOfNat (.inl (Nat.lt_trans ascii (by decide)))] at code
      exact backslash (UInt8.toNat_inj.mp code)
    rw [List.singleton_append, decodeChars?_cons_of_ne rest not_backslash,
      Utf8.encodeChar_of_ascii ascii]
    rfl
  · have bound := b.toNat_lt
    have digits : b.toNat / 16 * 16 + b.toNat % 16 = b.toNat := by omega
    have high := hexValue?_hexDigit (show b.toNat / 16 < 16 by omega)
    have low := hexValue?_hexDigit (show b.toNat % 16 < 16 by omega)
    simp only [List.cons_append, List.nil_append, decodeChars?, high, low, digits,
      Option.bind_eq_bind, Option.bind_some, UInt8.ofNat_toNat]
    cases decodeChars? rest <;> rfl

/-- A spelling reads back as the byte string that it spells. -/
theorem decode?_encode (bs : Bytes) : decode? (encode bs) = some bs := by
  rw [decode?, encode, String.toList_ofList]
  induction bs with
  | nil => rfl
  | cons b bs inductionHypothesis =>
      rw [List.flatMap_cons, decodeChars?_encodeByte_append, inductionHypothesis]
      rfl

/-- Two byte strings with the same spelling are the same. -/
theorem encode_injective {one two : Bytes} (same : encode one = encode two) : one = two := by
  have reread := congrArg decode? same
  rwa [decode?_encode, decode?_encode, Option.some.injEq] at reread

theorem encodeByte_of_verbatim {b : UInt8} (verbatim : Bytes.isVerbatimByte b = true) :
    encodeByte b = [Char.ofNat b.toNat] := by
  obtain ⟨printable, not_backslash⟩ := Bytes.isVerbatimByte_iff.mp verbatim
  unfold encodeByte
  split_ifs with nul tab feed carriage
  · simp [nul] at printable
  · simp [tab] at printable
  · simp [feed] at printable
  · simp [carriage] at printable
  · rfl

/-- A byte string that needs no escapes is spelled as it stands. -/
theorem encode_of_verbatim {bs : Bytes} (verbatim : bs.Verbatim) : encode bs = bs.asciiText := by
  rw [encode, Bytes.asciiText]
  congr 1
  induction bs with
  | nil => rfl
  | cons b bs inductionHypothesis =>
      have here := encodeByte_of_verbatim (verbatim b List.mem_cons_self)
      have tail := inductionHypothesis fun other member =>
        verbatim other (List.mem_cons_of_mem _ member)
      rw [List.flatMap_cons, here, tail]
      rfl

theorem encode_of_plain {bs : Bytes} (plain : bs.Plain) : encode bs = bs.asciiText :=
  encode_of_verbatim plain.verbatim

end Escaped

theorem Utf8.decodeFrom_of_ascii (index : Nat) {bs : Bytes} (ascii : ∀ b ∈ bs, b < 0x80) :
    Utf8.decodeFrom index bs = .ok (bs.map fun b => Char.ofNat b.toNat) := by
  induction bs generalizing index with
  | nil => rfl
  | cons b bs inductionHypothesis =>
      have tail := inductionHypothesis (index + 1) fun other member =>
        ascii other (List.mem_cons_of_mem _ member)
      rw [Utf8.decodeFrom.eq_def]
      simp only [if_pos (ascii b List.mem_cons_self), tail]
      rfl

/-- A byte string that needs no escapes is decoded as it stands. -/
theorem Utf8.decode_of_verbatim {bs : Bytes} (verbatim : bs.Verbatim) :
    Utf8.decode bs = .ok bs.asciiText := by
  rw [Utf8.decode, Utf8.decodeFrom_of_ascii]
  · rfl
  · intro b member
    obtain ⟨⟨-, bound⟩, -⟩ := Bytes.isVerbatimByte_iff.mp (verbatim b member)
    exact UInt8.lt_of_le_of_lt bound (by decide)

/-- A plain symbol is decoded to the spelling of its bytes. -/
theorem Value.decode_symbol_of_plain {bs : Bytes} (plain : bs.Plain) :
    (Value.symbol bs).decode = .ok (.string bs.asciiText) := by
  rw [Value.decode, textOfBytes, Utf8.decode_of_verbatim plain.verbatim]
  rfl

end ContractEvents
