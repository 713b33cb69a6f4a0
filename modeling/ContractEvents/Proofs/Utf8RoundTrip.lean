/-
Module: ContractEvents.Proofs.Utf8RoundTrip
Purpose: Text that was read from UTF-8 spells the bytes that it was read from, and every text is
  read back from its bytes.
Main exports: Utf8.encode_of_decode, Utf8.decode_injective, Utf8.exists_of_decodeFrom_append,
  Utf8.decode_encode
-/
import ContractEvents.Proofs.InterfaceText
import ContractEvents.Proofs.Outcomes

namespace ContractEvents.Utf8

/-!
A character has one spelling, and a byte sequence is read by the spellings of its characters: a
sequence that would be a longer spelling, a surrogate or a number out of range is refused by its
first two bytes.  So the characters that were read spell the bytes again.  The other way round, a
character has a number outside the surrogates, and the bytes that spell it are in the bounds of the
form that its number calls for.
-/

theorem isTail_iff {b : UInt8} : isTail b = true ↔ 0x80 ≤ b.toNat ∧ b.toNat ≤ 0xBF := by
  simp only [isTail, Bool.and_eq_true, decide_eq_true_eq, UInt8.le_iff_toNat_le,
    UInt8.reduceToNat]

/-! ### The spelling of one character -/

theorem encodeChar_of_two {a b : UInt8} (low : 0xC2 ≤ a.toNat) (high : a.toNat ≤ 0xDF)
    (second : isTail b = true) :
    encodeChar (Char.ofNat (a.toNat % 32 * 64 + tailBits b)) = [a, b] := by
  have bounds := isTail_iff.mp second
  obtain ⟨n, code⟩ : ∃ n, n = a.toNat % 32 * 64 + tailBits b := ⟨_, rfl⟩
  rw [tailBits] at code
  have first : 0xC0 + n / 64 = a.toNat := by omega
  have last : 0x80 + n % 64 = b.toNat := by omega
  have long : ¬ n < 0x80 := by omega
  have short : n < 0x800 := by omega
  rw [tailBits, ← code, encodeChar, toNat_charOfNat (.inl (by omega))]
  simp only [if_neg long, if_pos short, first, last, UInt8.ofNat_toNat]

theorem isSecondOfThree_iff {a b : UInt8} :
    isSecondOfThree a b = true ↔
      0x80 ≤ b.toNat ∧ b.toNat ≤ 0xBF ∧ (a.toNat = 0xE0 → 0xA0 ≤ b.toNat) ∧
        (a.toNat = 0xED → b.toNat ≤ 0x9F) := by
  simp only [isSecondOfThree, isTail, beq_iff_eq, ← UInt8.toNat_inj]
  split
  · simp only [Bool.and_eq_true, decide_eq_true_eq, UInt8.le_iff_toNat_le, UInt8.reduceToNat] at *
    omega
  · split
    all_goals
      simp only [Bool.and_eq_true, decide_eq_true_eq, UInt8.le_iff_toNat_le, UInt8.reduceToNat]
        at *
      omega

theorem encodeChar_of_three {a b c : UInt8} (low : 0xE0 ≤ a.toNat) (high : a.toNat ≤ 0xEF)
    (second : isSecondOfThree a b = true) (third : isTail c = true) :
    encodeChar (Char.ofNat (a.toNat % 16 * 4096 + tailBits b * 64 + tailBits c)) =
      [a, b, c] := by
  obtain ⟨secondLow, secondHigh, notOverlong, notSurrogate⟩ := isSecondOfThree_iff.mp second
  have bounds := isTail_iff.mp third
  obtain ⟨n, code⟩ : ∃ n, n = a.toNat % 16 * 4096 + tailBits b * 64 + tailBits c := ⟨_, rfl⟩
  rw [tailBits, tailBits] at code
  have first : 0xE0 + n / 4096 = a.toNat := by omega
  have middle : 0x80 + n / 64 % 64 = b.toNat := by omega
  have last : 0x80 + n % 64 = c.toNat := by omega
  have long : ¬ n < 0x80 := by omega
  have longer : ¬ n < 0x800 := by omega
  have short : n < 0x10000 := by omega
  have valid : n.isValidChar := by
    rcases Nat.lt_or_ge n 0xD800 with below | above
    · exact .inl below
    · exact .inr ⟨by omega, by omega⟩
  rw [tailBits, tailBits, ← code, encodeChar, toNat_charOfNat valid]
  simp only [if_neg long, if_neg longer, if_pos short, first, middle, last, UInt8.ofNat_toNat]

theorem isSecondOfFour_iff {a b : UInt8} :
    isSecondOfFour a b = true ↔
      0x80 ≤ b.toNat ∧ b.toNat ≤ 0xBF ∧ (a.toNat = 0xF0 → 0x90 ≤ b.toNat) ∧
        (a.toNat = 0xF4 → b.toNat ≤ 0x8F) := by
  simp only [isSecondOfFour, isTail, beq_iff_eq, ← UInt8.toNat_inj]
  split
  · simp only [Bool.and_eq_true, decide_eq_true_eq, UInt8.le_iff_toNat_le, UInt8.reduceToNat] at *
    omega
  · split
    all_goals
      simp only [Bool.and_eq_true, decide_eq_true_eq, UInt8.le_iff_toNat_le, UInt8.reduceToNat]
        at *
      omega

theorem encodeChar_of_four {a b c d : UInt8} (low : 0xF0 ≤ a.toNat) (high : a.toNat ≤ 0xF4)
    (second : isSecondOfFour a b = true) (third : isTail c = true) (fourth : isTail d = true) :
    encodeChar (Char.ofNat (a.toNat % 8 * 262144 + tailBits b * 4096 + tailBits c * 64 +
      tailBits d)) = [a, b, c, d] := by
  obtain ⟨secondLow, secondHigh, notOverlong, notBeyond⟩ := isSecondOfFour_iff.mp second
  have thirdBounds := isTail_iff.mp third
  have fourthBounds := isTail_iff.mp fourth
  obtain ⟨n, code⟩ : ∃ n, n = a.toNat % 8 * 262144 + tailBits b * 4096 + tailBits c * 64 +
    tailBits d := ⟨_, rfl⟩
  rw [tailBits, tailBits, tailBits] at code
  have first : 0xF0 + n / 262144 = a.toNat := by omega
  have middle : 0x80 + n / 4096 % 64 = b.toNat := by omega
  have next : 0x80 + n / 64 % 64 = c.toNat := by omega
  have last : 0x80 + n % 64 = d.toNat := by omega
  have long : ¬ n < 0x10000 := by omega
  have valid : n.isValidChar := .inr ⟨by omega, by omega⟩
  rw [tailBits, tailBits, tailBits, ← code, encodeChar, toNat_charOfNat valid]
  simp only [if_neg (show ¬ n < 0x80 by omega), if_neg (show ¬ n < 0x800 by omega), if_neg long,
    first, middle, next, last, UInt8.ofNat_toNat]

/-! ### Whole byte sequences -/

theorem encodeChars_cons_eq {c : Char} {cs : List Char} {front back : Bytes}
    (first : encodeChar c = front) (others : encodeChars cs = back) :
    encodeChars (c :: cs) = front ++ back := by
  rw [encodeChars, List.flatMap_cons, first, ← others, encodeChars]

theorem encodeChars_of_decodeFrom {index : Nat} {bs : Bytes} {cs : List Char}
    (decoded : decodeFrom index bs = .ok cs) : encodeChars cs = bs := by
  induction index, bs using decodeFrom.induct generalizing cs with
  | case1 index =>
      cases decoded
      rfl
  | case2 index a rest ascii inductionHypothesis =>
      rw [decodeFrom.eq_def] at decoded
      simp only [if_pos ascii] at decoded
      obtain ⟨others, tail, rfl⟩ := map_eq_ok_iff.mp decoded
      exact encodeChars_cons_eq (encodeChar_of_ascii (UInt8.lt_iff_toNat_lt.mp ascii))
        (inductionHypothesis tail)
  | case5 index a notAscii two b rest second inductionHypothesis =>
      rw [decodeFrom.eq_def] at decoded
      simp only [if_neg notAscii, if_pos two, if_neg second] at decoded
      obtain ⟨others, tail, rfl⟩ := map_eq_ok_iff.mp decoded
      simp only [Bool.and_eq_true, decide_eq_true_eq, UInt8.le_iff_toNat_le,
        UInt8.reduceToNat] at two
      exact encodeChars_cons_eq (encodeChar_of_two two.1 two.2 (by simpa using second))
        (inductionHypothesis tail)
  | case10 index a notAscii notTwo three b second c rest third inductionHypothesis =>
      rw [decodeFrom.eq_def] at decoded
      simp only [if_neg notAscii, if_neg notTwo, if_pos three, if_neg second, if_neg third]
        at decoded
      obtain ⟨others, tail, rfl⟩ := map_eq_ok_iff.mp decoded
      simp only [Bool.and_eq_true, decide_eq_true_eq, UInt8.le_iff_toNat_le,
        UInt8.reduceToNat] at three
      exact encodeChars_cons_eq
        (encodeChar_of_three three.1 three.2 (by simpa using second) (by simpa using third))
        (inductionHypothesis tail)
  | case17 index a notAscii notTwo notThree four b second c third d rest fourth
      inductionHypothesis =>
      rw [decodeFrom.eq_def] at decoded
      simp only [if_neg notAscii, if_neg notTwo, if_neg notThree, if_pos four, if_neg second,
        if_neg third, if_neg fourth] at decoded
      obtain ⟨others, tail, rfl⟩ := map_eq_ok_iff.mp decoded
      simp only [Bool.and_eq_true, decide_eq_true_eq, UInt8.le_iff_toNat_le,
        UInt8.reduceToNat] at four
      exact encodeChars_cons_eq
        (encodeChar_of_four four.1 four.2 (by simpa using second) (by simpa using third)
          (by simpa using fourth))
        (inductionHypothesis tail)
  | _ =>
      -- In every other case the sequence is refused.
      rw [decodeFrom.eq_def] at decoded
      simp only [*, ↓reduceIte, Bool.false_eq_true, reduceCtorEq] at decoded

/-- Text that was read from a byte sequence spells that sequence. -/
theorem encode_of_decode {bs : Bytes} {text : String} (decoded : decode bs = .ok text) :
    encode text = bs := by
  obtain ⟨cs, read, rfl⟩ := map_eq_ok_iff.mp decoded
  rw [encode, String.toList_ofList]
  exact encodeChars_of_decodeFrom read

/-- Two byte sequences that read as the same text are the same. -/
theorem decode_injective {one two : Bytes} {text : String} (first : decode one = .ok text)
    (second : decode two = .ok text) : one = two := by
  rw [← encode_of_decode first, encode_of_decode second]

/-- ASCII bytes in front of a content are read as its first characters. -/
theorem exists_of_decodeFrom_append {index : Nat} {front back : Bytes} {cs : List Char}
    (ascii : ∀ b ∈ front, b < 0x80) (decoded : decodeFrom index (front ++ back) = .ok cs) :
    ∃ others, cs = front.map (fun b => Char.ofNat b.toNat) ++ others := by
  induction front generalizing index cs with
  | nil => exact ⟨cs, rfl⟩
  | cons b front inductionHypothesis =>
      rw [List.cons_append, decodeFrom.eq_def] at decoded
      simp only [if_pos (ascii b List.mem_cons_self)] at decoded
      obtain ⟨read, tail, rfl⟩ := map_eq_ok_iff.mp decoded
      obtain ⟨others, rfl⟩ :=
        inductionHypothesis (fun b member => ascii b (List.mem_cons_of_mem _ member)) tail
      exact ⟨others, rfl⟩

/-! ### Reading a spelling back -/

theorem toNat_ofNat_of_lt {m : Nat} (byte : m < 256) : (UInt8.ofNat m).toNat = m := by
  rw [UInt8.toNat_ofNat', Nat.mod_eq_of_lt byte]

theorem decodeFrom_of_two (index : Nat) {n : Nat} {a b : UInt8}
    (long : 0x80 ≤ n) (short : n < 0x800) (first : a.toNat = 0xC0 + n / 64)
    (second : b.toNat = 0x80 + n % 64) (rest : Bytes) :
    decodeFrom index (a :: b :: rest) = (Char.ofNat n :: ·) <$> decodeFrom (index + 2) rest := by
  have tail := (isTail_iff (b := b)).mpr ⟨by omega, by omega⟩
  have code : a.toNat % 32 * 64 + tailBits b = n := by rw [tailBits]; omega
  have range : ¬ a < 0x80 ∧ 0xC2 ≤ a ∧ a ≤ 0xDF := by
    simp only [UInt8.lt_iff_toNat_lt, UInt8.le_iff_toNat_le, UInt8.reduceToNat]
    omega
  rw [decodeFrom.eq_def]
  simp only [range, tail, code, decide_true, Bool.and_self, Bool.not_true, Bool.false_eq_true,
    if_true, if_false]

theorem decodeFrom_of_three (index : Nat) {n : Nat} {a b c : UInt8} (long : 0x800 ≤ n)
    (short : n < 0x10000) (valid : n < 0xD800 ∨ 0xDFFF < n) (first : a.toNat = 0xE0 + n / 4096)
    (second : b.toNat = 0x80 + n / 64 % 64) (third : c.toNat = 0x80 + n % 64) (rest : Bytes) :
    decodeFrom index (a :: b :: c :: rest) =
      (Char.ofNat n :: ·) <$> decodeFrom (index + 3) rest := by
  have middle := (isSecondOfThree_iff (a := a) (b := b)).mpr
    ⟨by omega, by omega, by omega, by omega⟩
  have tail := (isTail_iff (b := c)).mpr ⟨by omega, by omega⟩
  have code : a.toNat % 16 * 4096 + tailBits b * 64 + tailBits c = n := by
    rw [tailBits, tailBits]
    omega
  have range : ¬ a < 0x80 ∧ ¬ a ≤ 0xDF ∧ 0xE0 ≤ a ∧ a ≤ 0xEF := by
    simp only [UInt8.lt_iff_toNat_lt, UInt8.le_iff_toNat_le, UInt8.reduceToNat]
    omega
  rw [decodeFrom.eq_def]
  simp only [range, middle, tail, code, decide_true, decide_false, Bool.and_self, Bool.and_false,
    Bool.not_true, Bool.false_eq_true, if_true, if_false]

theorem decodeFrom_of_four (index : Nat) {n : Nat} {a b c d : UInt8} (long : 0x10000 ≤ n)
    (short : n < 0x110000) (first : a.toNat = 0xF0 + n / 262144)
    (second : b.toNat = 0x80 + n / 4096 % 64) (third : c.toNat = 0x80 + n / 64 % 64)
    (fourth : d.toNat = 0x80 + n % 64) (rest : Bytes) :
    decodeFrom index (a :: b :: c :: d :: rest) =
      (Char.ofNat n :: ·) <$> decodeFrom (index + 4) rest := by
  have next := (isSecondOfFour_iff (a := a) (b := b)).mpr
    ⟨by omega, by omega, by omega, by omega⟩
  have middle := (isTail_iff (b := c)).mpr ⟨by omega, by omega⟩
  have tail := (isTail_iff (b := d)).mpr ⟨by omega, by omega⟩
  have code : a.toNat % 8 * 262144 + tailBits b * 4096 + tailBits c * 64 + tailBits d = n := by
    rw [tailBits, tailBits, tailBits]
    omega
  have range : ¬ a < 0x80 ∧ ¬ a ≤ 0xDF ∧ ¬ a ≤ 0xEF ∧ 0xF0 ≤ a ∧ a ≤ 0xF4 := by
    simp only [UInt8.lt_iff_toNat_lt, UInt8.le_iff_toNat_le, UInt8.reduceToNat]
    omega
  rw [decodeFrom.eq_def]
  simp only [range, next, middle, tail, code, decide_true, decide_false, Bool.and_self,
    Bool.and_false, Bool.not_true, Bool.false_eq_true, if_true, if_false]

/-- The spelling of a character, in front of anything else, is read as that character. -/
theorem exists_decodeFrom_encodeChar (index : Nat) (c : Char) (rest : Bytes) :
    ∃ next, decodeFrom index (encodeChar c ++ rest) = (c :: ·) <$> decodeFrom next rest := by
  have valid : c.toNat < 0xD800 ∨ 0xDFFF < c.toNat ∧ c.toNat < 0x110000 := c.valid
  have same : Char.ofNat c.toNat = c := Char.ofNat_toNat c
  rcases Nat.lt_or_ge c.toNat 0x80 with ascii | notAscii
  · have byte := toNat_ofNat_of_lt (show c.toNat < 256 by omega)
    have small : UInt8.ofNat c.toNat < 0x80 := by
      rw [UInt8.lt_iff_toNat_lt, byte]
      exact ascii
    refine ⟨index + 1, ?_⟩
    simp only [encodeChar, if_pos ascii, List.singleton_append]
    rw [decodeFrom.eq_def]
    simp only [if_pos small, byte, same]
  rcases Nat.lt_or_ge c.toNat 0x800 with short | long
  · have read := decodeFrom_of_two index notAscii short
      (toNat_ofNat_of_lt (by omega)) (toNat_ofNat_of_lt (by omega)) rest
    rw [same] at read
    refine ⟨index + 2, ?_⟩
    simp only [encodeChar, if_neg (Nat.not_lt.mpr notAscii), if_pos short]
    exact read
  rcases Nat.lt_or_ge c.toNat 0x10000 with short | longer
  · have read := decodeFrom_of_three index long short (by omega)
      (toNat_ofNat_of_lt (by omega)) (toNat_ofNat_of_lt (by omega))
      (toNat_ofNat_of_lt (by omega)) rest
    rw [same] at read
    refine ⟨index + 3, ?_⟩
    simp only [encodeChar, if_neg (Nat.not_lt.mpr notAscii), if_neg (Nat.not_lt.mpr long),
      if_pos short]
    exact read
  · have read := decodeFrom_of_four index longer (by omega)
      (toNat_ofNat_of_lt (by omega)) (toNat_ofNat_of_lt (by omega))
      (toNat_ofNat_of_lt (by omega)) (toNat_ofNat_of_lt (by omega)) rest
    rw [same] at read
    refine ⟨index + 4, ?_⟩
    simp only [encodeChar, if_neg (Nat.not_lt.mpr notAscii), if_neg (Nat.not_lt.mpr long),
      if_neg (Nat.not_lt.mpr longer)]
    exact read

theorem decodeFrom_encodeChars (index : Nat) (cs : List Char) :
    decodeFrom index (encodeChars cs) = .ok cs := by
  induction cs generalizing index with
  | nil => rfl
  | cons c cs inductionHypothesis =>
      obtain ⟨next, read⟩ := exists_decodeFrom_encodeChar index c (encodeChars cs)
      rw [encodeChars_cons_eq rfl rfl, read, inductionHypothesis]
      rfl

/-- Every text is read back from its bytes. -/
theorem decode_encode (text : String) : decode (encode text) = .ok text := by
  rw [decode, encode, decodeFrom_encodeChars]
  exact congrArg Except.ok String.ofList_toList

end ContractEvents.Utf8
