/-
Module: ContractEvents.Proofs.BinaryText
Purpose: Binary data is spelled in one way, in base64 and in the checked base32 of keys.
Main exports: Base64.decode_encodeSymbols, Base64.encode_injective, Strkey.base32_injective,
  Strkey.render_injective
-/
import ContractEvents.Bytes.Base64
import ContractEvents.Bytes.Strkey
import ContractEvents.Proofs.Utf8RoundTrip

namespace ContractEvents

/-! ### Base64 -/

namespace Base64

variable {n start : Nat} {values : List Nat} {rest : Bytes}

theorem value_symbol (small : n < 64) (offset : Nat) : value (symbol n) offset = .ok n := by
  rw [value, value?_symbol small]

theorem symbol_ne_pad (small : n < 64) : symbol n ≠ pad := by
  intro same
  have read := value?_symbol small
  rw [same] at read
  cases read

theorem splitLast_symbol (small : n < 64) :
    splitLast start values 0 (symbol n :: rest) = splitLast start (values ++ [n]) 0 rest := by
  rw [splitLast, if_neg (symbol_ne_pad small), if_neg (Nat.lt_irrefl 0), value_symbol small]
  rfl

theorem splitLast_pad {pads : Nat} (behind : 2 ≤ values.length) :
    splitLast start values pads (pad :: rest) = splitLast start values (pads + 1) rest := by
  rw [splitLast, if_pos rfl, if_neg (by omega)]

theorem ofNat_eq {b : UInt8} (code : n = b.toNat) : UInt8.ofNat n = b := by
  rw [code, UInt8.ofNat_toNat]

/-- The last quad of one byte. -/
theorem decodeLast_one (start : Nat) (a : UInt8) :
    decodeLast start (encodeSymbols [a]) = .ok ⟨[a], some (start + 2)⟩ := by
  have bound := a.toNat_lt
  rw [encodeSymbols, decodeLast, splitLast_symbol (by omega), splitLast_symbol (by omega),
    splitLast_pad (by simp), splitLast_pad (by simp), splitLast]
  have bits : a.toNat % 4 * 16 % 16 = 0 := by omega
  have bytes : (bytesOfQuad (a.toNat / 4) (a.toNat % 4 * 16) 0 0).take 1 = [a] := by
    rw [bytesOfQuad, ofNat_eq (b := a) (by omega)]
    rfl
  simp [bind, Except.bind, pure, Except.pure, bits, bytes]

/-- The last quad of two bytes. -/
theorem decodeLast_two (start : Nat) (a b : UInt8) :
    decodeLast start (encodeSymbols [a, b]) = .ok ⟨[a, b], some (start + 3)⟩ := by
  have boundA := a.toNat_lt
  have boundB := b.toNat_lt
  rw [encodeSymbols, decodeLast, splitLast_symbol (by omega), splitLast_symbol (by omega),
    splitLast_symbol (by omega), splitLast_pad (by simp), splitLast]
  have bits : b.toNat % 16 * 4 % 4 = 0 := by omega
  have bytes : (bytesOfQuad (a.toNat / 4) (a.toNat % 4 * 16 + b.toNat / 16)
      (b.toNat % 16 * 4) 0).take 2 = [a, b] := by
    rw [bytesOfQuad, ofNat_eq (b := a) (by omega), ofNat_eq (b := b) (by omega)]
    rfl
  simp [bind, Except.bind, pure, Except.pure, bits, bytes]

/-- The three bytes of the symbols that spell them. -/
theorem bytesOfQuad_symbols (a b c : UInt8) :
    bytesOfQuad (a.toNat / 4) (a.toNat % 4 * 16 + b.toNat / 16) (b.toNat % 16 * 4 + c.toNat / 64)
      (c.toNat % 64) = [a, b, c] := by
  have boundA := a.toNat_lt
  have boundB := b.toNat_lt
  have boundC := c.toNat_lt
  rw [bytesOfQuad, ofNat_eq (b := a) (by omega), ofNat_eq (b := b) (by omega),
    ofNat_eq (b := c) (by omega)]

theorem decodeLast_three (start : Nat) (a b c : UInt8) :
    decodeLast start (encodeSymbols [a, b, c]) = .ok ⟨[a, b, c], none⟩ := by
  have boundA := a.toNat_lt
  have boundB := b.toNat_lt
  have boundC := c.toNat_lt
  rw [encodeSymbols, encodeSymbols, decodeLast, splitLast_symbol (by omega),
    splitLast_symbol (by omega), splitLast_symbol (by omega), splitLast_symbol (by omega), splitLast]
  simp [bind, Except.bind, pure, Except.pure, bytesOfQuad_symbols]

theorem exists_cons_encodeSymbols (b : UInt8) (bs : Bytes) :
    ∃ s symbols, encodeSymbols (b :: bs) = s :: symbols := by
  match bs with
  | [] => exact ⟨_, _, rfl⟩
  | [_] => exact ⟨_, _, rfl⟩
  | _ :: _ :: _ => exact ⟨_, _, rfl⟩

/-- Symbols that spell bytes are decoded to these bytes.  There is a pad only if the last quad does
not have three of them. -/
theorem decodeQuads_encodeSymbols (start : Nat) (bs : Bytes) :
    ∃ padAt, decodeQuads start (encodeSymbols bs) = .ok ⟨bs, padAt⟩ ∧
      (padAt = none ∨ bs.length % 3 ≠ 0) := by
  induction bs using encodeSymbols.induct generalizing start with
  | case1 => exact ⟨none, rfl, .inl rfl⟩
  | case2 a => exact ⟨_, decodeLast_one start a, .inr (by simp)⟩
  | case3 a b => exact ⟨_, decodeLast_two start a b, .inr (by simp)⟩
  | case4 a b c rest inductionHypothesis =>
      cases rest with
      | nil => exact ⟨_, decodeLast_three start a b c, .inl rfl⟩
      | cons d rest =>
          have boundA := a.toNat_lt
          have boundB := b.toNat_lt
          have boundC := c.toNat_lt
          obtain ⟨padAt, decoded, padded⟩ := inductionHypothesis (start + 4)
          obtain ⟨s, symbols, spelled⟩ := exists_cons_encodeSymbols d rest
          refine ⟨padAt, ?_, ?_⟩
          · rw [spelled] at decoded
            rw [encodeSymbols, spelled, decodeQuads, value_symbol (by omega),
              value_symbol (by omega), value_symbol (by omega), value_symbol (by omega), decoded]
            simp [bind, Except.bind, pure, Except.pure, bytesOfQuad_symbols]
          · rcases padded with unpadded | short
            · exact .inl unpadded
            · simp only [List.length_cons] at short ⊢
              exact .inr (by omega)

theorem decode_encodeSymbols (bs : Bytes) : decode (encodeSymbols bs) = .ok bs := by
  obtain ⟨padAt, decoded, -⟩ := decodeQuads_encodeSymbols 0 bs
  rw [decode, decoded]
  rfl

theorem encodeSymbols_injective {one two : Bytes} (same : encodeSymbols one = encodeSymbols two) :
    one = two := by
  have reread := decode_encodeSymbols one
  rw [same, decode_encodeSymbols, Except.ok.injEq] at reread
  exact reread.symm

/-- Two byte sequences with the same text are the same. -/
theorem encode_injective {one two : Bytes} (same : encode one = encode two) : one = two := by
  have chars := congrArg String.toList same
  rw [encode, encode, String.toList_ofList, String.toList_ofList] at chars
  apply encodeSymbols_injective
  refine (List.map_inj_right ?_).mp chars
  intro s t sameChar
  have code := congrArg Char.toNat sameChar
  have boundS := s.toNat_lt
  have boundT := t.toNat_lt
  rw [Utf8.toNat_charOfNat (.inl (by omega)), Utf8.toNat_charOfNat (.inl (by omega))] at code
  exact UInt8.toNat_inj.mp code

/-! ### Quads -/

theorem length_encodeSymbols (bs : Bytes) :
    (encodeSymbols bs).length = (bs.length + 2) / 3 * 4 := by
  induction bs using encodeSymbols.induct with
  | case1 => rfl
  | case2 a => simp [encodeSymbols]
  | case3 a b => simp [encodeSymbols]
  | case4 a b c rest inductionHypothesis =>
      simp only [encodeSymbols, List.length_cons, inductionHypothesis]
      omega

/-- Bytes in groups of three are spelled apart from those behind them. -/
theorem encodeSymbols_append {front : Bytes} (whole : front.length % 3 = 0) (back : Bytes) :
    encodeSymbols (front ++ back) = encodeSymbols front ++ encodeSymbols back := by
  induction front using encodeSymbols.induct with
  | case1 => rfl
  | case2 a => simp at whole
  | case3 a b => simp at whole
  | case4 a b c rest inductionHypothesis =>
      simp only [List.length_cons] at whole
      simp only [List.cons_append, encodeSymbols, inductionHypothesis (by omega)]

/-- The first quads spell the first bytes, and those behind them the others. -/
theorem split_encodeSymbols (quads : Nat) (bs : Bytes) :
    (encodeSymbols bs).take (quads * 4) = encodeSymbols (bs.take (quads * 3)) ∧
      (encodeSymbols bs).drop (quads * 4) = encodeSymbols (bs.drop (quads * 3)) := by
  have length := length_encodeSymbols bs
  by_cases inside : quads * 3 ≤ bs.length
  · have lengthFront : (bs.take (quads * 3)).length = quads * 3 := List.length_take_of_le inside
    have symbolsFront := length_encodeSymbols (bs.take (quads * 3))
    have split := encodeSymbols_append (show (bs.take (quads * 3)).length % 3 = 0 by omega)
      (bs.drop (quads * 3))
    rw [List.take_append_drop] at split
    have width : (encodeSymbols (bs.take (quads * 3))).length = quads * 4 := by omega
    rw [split]
    exact ⟨List.take_left' width, List.drop_left' width⟩
  · rw [List.take_of_length_le (by omega), List.take_of_length_le (by omega),
      List.drop_of_length_le (by omega), List.drop_of_length_le (by omega)]
    exact ⟨rfl, rfl⟩

theorem mem_encodeSymbols {s : UInt8} {bs : Bytes} (member : s ∈ encodeSymbols bs) :
    s = pad ∨ ∃ n < 64, s = symbol n := by
  induction bs using encodeSymbols.induct with
  | case1 => cases member
  | case2 a =>
      have bound := a.toNat_lt
      simp only [encodeSymbols, List.mem_cons, List.not_mem_nil, or_false] at member
      rcases member with here | here | here | here
      · exact .inr ⟨_, by omega, here⟩
      · exact .inr ⟨_, by omega, here⟩
      · exact .inl here
      · exact .inl here
  | case3 a b =>
      have boundA := a.toNat_lt
      have boundB := b.toNat_lt
      simp only [encodeSymbols, List.mem_cons, List.not_mem_nil, or_false] at member
      rcases member with here | here | here | here
      · exact .inr ⟨_, by omega, here⟩
      · exact .inr ⟨_, by omega, here⟩
      · exact .inr ⟨_, by omega, here⟩
      · exact .inl here
  | case4 a b c rest inductionHypothesis =>
      have boundA := a.toNat_lt
      have boundB := b.toNat_lt
      have boundC := c.toNat_lt
      simp only [encodeSymbols, List.mem_cons] at member
      rcases member with here | here | here | here | behind
      · exact .inr ⟨_, by omega, here⟩
      · exact .inr ⟨_, by omega, here⟩
      · exact .inr ⟨_, by omega, here⟩
      · exact .inr ⟨_, by omega, here⟩
      · exact inductionHypothesis behind

/-- What holds of all symbols and of the pad holds of everything in a text. -/
theorem forall_mem_encodeSymbols {good : UInt8 → Prop} (padGood : good pad)
    (symbolGood : ∀ n < 64, good (symbol n)) (bs : Bytes) : ∀ s ∈ encodeSymbols bs, good s := by
  intro s member
  rcases mem_encodeSymbols member with rfl | ⟨n, small, rfl⟩
  · exact padGood
  · exact symbolGood n small

/-- The UTF-8 form of a text is its symbols. -/
theorem encode_utf8 (bs : Bytes) : Utf8.encode (encode bs) = encodeSymbols bs := by
  rw [Utf8.encode, encode, String.toList_ofList]
  exact Utf8.encodeChars_of_ascii (forall_mem_encodeSymbols (by decide) (by decide) bs)

end Base64

/-! ### Base32 -/

namespace Strkey

theorem symbol_injective {m n : Nat} (smallM : m < 32) (smallN : n < 32)
    (same : symbol m = symbol n) : m = n := by
  have distinct : ∀ m < 32, ∀ n < 32, symbol m = symbol n → m = n := by decide
  exact distinct m smallM n smallN same

/-- Five bytes are told by their eight symbols. -/
theorem symbolsOfFive_injective {a b c d e a' b' c' d' e' : UInt8}
    (same : symbolsOfFive a b c d e = symbolsOfFive a' b' c' d' e') :
    a = a' ∧ b = b' ∧ c = c' ∧ d = d' ∧ e = e' := by
  simp only [symbolsOfFive, List.cons.injEq, and_true] at same
  obtain ⟨s1, s2, s3, s4, s5, s6, s7, s8⟩ := same
  have boundA := a.toNat_lt
  have boundB := b.toNat_lt
  have boundC := c.toNat_lt
  have boundD := d.toNat_lt
  have boundE := e.toNat_lt
  have boundA' := a'.toNat_lt
  have boundB' := b'.toNat_lt
  have boundC' := c'.toNat_lt
  have boundD' := d'.toNat_lt
  have boundE' := e'.toNat_lt
  replace s1 := symbol_injective (by omega) (by omega) s1
  replace s2 := symbol_injective (by omega) (by omega) s2
  replace s3 := symbol_injective (by omega) (by omega) s3
  replace s4 := symbol_injective (by omega) (by omega) s4
  replace s5 := symbol_injective (by omega) (by omega) s5
  replace s6 := symbol_injective (by omega) (by omega) s6
  replace s7 := symbol_injective (by omega) (by omega) s7
  replace s8 := symbol_injective (by omega) (by omega) s8
  simp only [← UInt8.toNat_inj]
  omega

/-- A last stretch of `count` symbols leaves out symbols of zeros only. -/
theorem symbolsOfFive_of_take {count : Nat} {a b c d a' b' c' d' : UInt8}
    (same : (symbolsOfFive a b c d 0).take count = (symbolsOfFive a' b' c' d' 0).take count)
    (zeros : (symbolsOfFive a b c d 0).drop count = (symbolsOfFive a' b' c' d' 0).drop count) :
    a = a' ∧ b = b' ∧ c = c' ∧ d = d' := by
  have whole : symbolsOfFive a b c d 0 = symbolsOfFive a' b' c' d' 0 := by
    rw [← List.take_append_drop count (symbolsOfFive a b c d 0), same, zeros,
      List.take_append_drop]
  obtain ⟨sameA, sameB, sameC, sameD, -⟩ := symbolsOfFive_injective whole
  exact ⟨sameA, sameB, sameC, sameD⟩

theorem length_base32 (bs : Bytes) : (base32 bs).length = (8 * bs.length + 4) / 5 := by
  induction bs using base32.induct with
  | case6 a b c d e rest inductionHypothesis =>
      rw [base32, List.length_append, inductionHypothesis]
      simp only [symbolsOfFive, List.length_cons, List.length_nil]
      omega
  | _ => simp [base32, symbolsOfFive]

/-- Two byte sequences with the same symbols are the same. -/
theorem base32_injective {one two : Bytes} (same : base32 one = base32 two) : one = two := by
  have lengths := congrArg List.length same
  rw [length_base32, length_base32] at lengths
  replace lengths : one.length = two.length := by omega
  induction one using base32.induct generalizing two with
  | case1 => exact (List.length_eq_zero_iff.mp lengths.symm).symm
  | case2 a =>
      match two, lengths with
      | [a'], _ =>
          obtain ⟨rfl, -⟩ := symbolsOfFive_of_take same rfl
          rfl
  | case3 a b =>
      match two, lengths with
      | [a', b'], _ =>
          obtain ⟨rfl, rfl, -⟩ := symbolsOfFive_of_take same rfl
          rfl
  | case4 a b c =>
      match two, lengths with
      | [a', b', c'], _ =>
          obtain ⟨rfl, rfl, rfl, -⟩ := symbolsOfFive_of_take same rfl
          rfl
  | case5 a b c d =>
      match two, lengths with
      | [a', b', c', d'], _ =>
          obtain ⟨rfl, rfl, rfl, rfl⟩ := symbolsOfFive_of_take same rfl
          rfl
  | case6 a b c d e rest inductionHypothesis =>
      match two, lengths with
      | a' :: b' :: c' :: d' :: e' :: rest', lengths =>
          rw [base32, base32] at same
          obtain ⟨here, tail⟩ := List.append_inj same rfl
          obtain ⟨rfl, rfl, rfl, rfl, rfl⟩ := symbolsOfFive_injective here
          rw [inductionHypothesis tail (by simpa using lengths)]

theorem version_injective {one two : Kind} (same : one.version = two.version) : one = two := by
  cases one <;> cases two <;> first | rfl | exact absurd same (by decide)

/-- Two keys with the same text are the same, and belong to the same kind. -/
theorem render_injective {one two : Kind} {keyOne keyTwo : Bytes}
    (same : render one keyOne = render two keyTwo) : one = two ∧ keyOne = keyTwo := by
  have chars := congrArg String.toList same
  rw [render, render, String.toList_ofList, String.toList_ofList] at chars
  have bytes := base32_injective chars
  -- Both checksums take two bytes, so they end at the same place.
  obtain ⟨body, -⟩ := List.append_inj' bytes rfl
  obtain ⟨version, key⟩ := List.cons.inj body
  exact ⟨version_injective version, key⟩

end Strkey

end ContractEvents
