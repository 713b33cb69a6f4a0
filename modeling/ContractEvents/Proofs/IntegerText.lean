/-
Module: ContractEvents.Proofs.IntegerText
Purpose: Integers of every width are written exactly, and can be read back.
Main exports: IsDecimal, isDecimal_toString, WrittenExactly, Value.integer?, Value.IntegersExact,
  Value.integers_exact
-/
import ContractEvents.Proofs.DecodedTrees
import ContractEvents.Proofs.WideIntegers

namespace ContractEvents

/-!
The decimal of an integer has the digits of its size, of which the first is a zero only if there is
no other, and a minus sign in front if the integer is negative.  Wide integers are written so from
their parts, which are found again as the digits to the base `2 ^ 64` of what the text says.
-/

/-! ### Decimals -/

/-- Decimal digits of a natural number, without a zero in front. -/
structure IsNumeral (digits : List Char) (n : Nat) : Prop where
  nonempty : digits ≠ []
  digit : ∀ c ∈ digits, c.isDigit = true
  leading : digits.head? = some '0' → digits = ['0']
  spelled : Nat.ofDigitChars 10 digits 0 = n

/-- A text is the decimal of an integer: the digits of its size, and in front of them a minus sign
if it is negative, but no other sign. -/
def IsDecimal (text : String) (n : Int) : Prop :=
  ∃ digits, IsNumeral digits n.natAbs ∧
    text.toList = if n < 0 then '-' :: digits else digits

theorem head?_toDigits_of_le {n : Nat} (large : 10 ≤ n) :
    (Nat.toDigits 10 n).head? = (Nat.toDigits 10 (n / 10)).head? := by
  rw [Nat.toDigits_eq_if (by decide), if_neg (by omega),
    List.head?_append_of_ne_nil _ Nat.toDigits_ne_nil]

/-- Only the digits of zero start with a zero. -/
theorem eq_zero_of_head?_toDigits {n : Nat} (zero : (Nat.toDigits 10 n).head? = some '0') :
    n = 0 := by
  induction n using Nat.strongRecOn with
  | _ n inductionHypothesis =>
    by_cases large : 10 ≤ n
    · rw [head?_toDigits_of_le large] at zero
      have smaller := inductionHypothesis (n / 10) (by omega) zero
      omega
    · have digit : ∀ n < 10, Nat.digitChar n = '0' → n = 0 := by decide
      rw [Nat.toDigits_of_lt_base (by omega), List.head?_cons, Option.some.injEq] at zero
      exact digit n (by omega) zero

theorem isNumeral_toDigits (n : Nat) : IsNumeral (Nat.toDigits 10 n) n where
  nonempty := Nat.toDigits_ne_nil
  digit := fun _ member => Nat.isDigit_of_mem_toDigits (by decide) (by decide) member
  leading := by
    intro zero
    rw [eq_zero_of_head?_toDigits zero]
    rfl
  spelled := Nat.ofDigitChars_ten_toDigits

theorem isDecimal_toString (n : Int) : IsDecimal (toString n) n := by
  refine ⟨Nat.toDigits 10 n.natAbs, isNumeral_toDigits n.natAbs, ?_⟩
  cases n with
  | ofNat n =>
      rw [if_neg (by simp)]
      exact Nat.toList_repr
  | negSucc n =>
      have spelled : toString (Int.negSucc n) = "-" ++ Nat.repr (n + 1) := rfl
      rw [if_pos (Int.negSucc_lt_zero n), spelled, String.toList_append, Nat.toList_repr]
      rfl

/-! ### Parts -/

/-- What is known of the text of parts, the integer that they spell, and the digits of an integer to
the base `2 ^ 64`. -/
structure WrittenExactly {α : Type} (write : α → String) (spelled : α → Int) (ofInt : Int → α) :
    Prop where
  /-- The text is the decimal of the integer. -/
  decimal : ∀ parts, IsDecimal (write parts) (spelled parts)
  /-- Different parts have different texts. -/
  different : ∀ one two, one ≠ two → write one ≠ write two
  /-- The digits of the integer that the text is read as are the parts. -/
  recovered : ∀ parts, (write parts).toInt?.map ofInt = some parts

theorem writtenExactly {α : Type} {write : α → String} {spelled : α → Int} {ofInt : Int → α}
    (written : ∀ parts, write parts = toString (spelled parts))
    (digits : ∀ parts, ofInt (spelled parts) = parts) : WrittenExactly write spelled ofInt := by
  have recovered : ∀ parts, (write parts).toInt?.map ofInt = some parts := by
    intro parts
    rw [written, Int.toString_eq_repr, Int.toInt?_repr, Option.map_some, digits]
  refine ⟨?_, ?_, recovered⟩
  · intro parts
    rw [written]
    exact isDecimal_toString (spelled parts)
  · intro one two distinct same
    have both := recovered one
    rw [same, recovered two, Option.some.injEq] at both
    exact distinct both.symm

/-- What stands above the lowest digit. -/
theorem ediv_digit (high : Int) (low : UInt64) : (high * 2 ^ 64 + low.toNat) / 2 ^ 64 = high := by
  have bound := low.toNat_lt
  omega

/-- The lowest digit. -/
theorem ofInt_digit (high : Int) (low : UInt64) :
    UInt64.ofInt (high * 2 ^ 64 + low.toNat) = low := by
  have bound := low.toNat_lt
  have rest : ((high * 2 ^ 64 + low.toNat) % 2 ^ 64).toNat = low.toNat := by omega
  rw [UInt64.ofInt, rest, UInt64.ofNat_toNat]

theorem ofInt_toNat (high : UInt64) : UInt64.ofInt high.toNat = high := by
  have lowest := ofInt_digit 0 high
  rwa [Int.zero_mul, Int.zero_add] at lowest

namespace UInt128Parts

/-- The integer whose digits to the base `2 ^ 64` are the parts. -/
def digitSum (n : UInt128Parts) : Int := n.hi.toNat * 2 ^ 64 + n.lo.toNat

/-- The digits of an integer. -/
def ofInt (n : Int) : UInt128Parts := ⟨UInt64.ofInt (n / 2 ^ 64), UInt64.ofInt n⟩

theorem toNat_eq_digitSum (n : UInt128Parts) : (n.toNat : Int) = n.digitSum := by
  rw [toNat_eq, digitSum]
  push_cast
  rfl

theorem ofInt_digitSum (n : UInt128Parts) : ofInt n.digitSum = n := by
  rw [ofInt, digitSum, ediv_digit, ofInt_digit, ofInt_toNat]

theorem writtenExactly : WrittenExactly (fun n => toString n.toNat) digitSum ofInt :=
  ContractEvents.writtenExactly
    (fun n => by rw [← toNat_eq_digitSum]; rfl) ofInt_digitSum

end UInt128Parts

namespace Int128Parts

/-- The integer whose digits to the base `2 ^ 64` are the parts, the highest with its sign. -/
def digitSum (n : Int128Parts) : Int := n.hi.toInt * 2 ^ 64 + n.lo.toNat

/-- The digits of an integer, the highest with its sign. -/
def ofInt (n : Int) : Int128Parts := ⟨Int64.ofInt (n / 2 ^ 64), UInt64.ofInt n⟩

theorem ofInt_digitSum (n : Int128Parts) : ofInt n.digitSum = n := by
  rw [ofInt, digitSum, ediv_digit, ofInt_digit, Int64.ofInt_toInt]

theorem writtenExactly : WrittenExactly (fun n => toString n.toInt) digitSum ofInt :=
  ContractEvents.writtenExactly (fun n => congrArg toString n.toInt_eq) ofInt_digitSum

end Int128Parts

namespace UInt256Parts

/-- The integer whose digits to the base `2 ^ 64` are the parts. -/
def digitSum (n : UInt256Parts) : Int :=
  n.hiHi.toNat * 2 ^ 192 + n.hiLo.toNat * 2 ^ 128 + n.loHi.toNat * 2 ^ 64 + n.loLo.toNat

/-- The digits of an integer. -/
def ofInt (n : Int) : UInt256Parts :=
  ⟨UInt64.ofInt (n / 2 ^ 64 / 2 ^ 64 / 2 ^ 64), UInt64.ofInt (n / 2 ^ 64 / 2 ^ 64),
    UInt64.ofInt (n / 2 ^ 64), UInt64.ofInt n⟩

theorem digitSum_eq (n : UInt256Parts) :
    n.digitSum = ((n.hiHi.toNat * 2 ^ 64 + n.hiLo.toNat) * 2 ^ 64 + n.loHi.toNat) * 2 ^ 64 +
      n.loLo.toNat := by
  rw [digitSum]
  ring

theorem toNat_eq_digitSum (n : UInt256Parts) : (n.toNat : Int) = n.digitSum := by
  rw [toNat_eq, digitSum_eq]
  push_cast
  rfl

theorem ofInt_digitSum (n : UInt256Parts) : ofInt n.digitSum = n := by
  rw [ofInt, digitSum_eq]
  simp only [ediv_digit, ofInt_digit, ofInt_toNat]

theorem writtenExactly : WrittenExactly (fun n => toString n.toNat) digitSum ofInt :=
  ContractEvents.writtenExactly
    (fun n => by rw [← toNat_eq_digitSum]; rfl) ofInt_digitSum

end UInt256Parts

namespace Int256Parts

/-- The integer whose digits to the base `2 ^ 64` are the parts, the highest with its sign. -/
def digitSum (n : Int256Parts) : Int :=
  n.hiHi.toInt * 2 ^ 192 + n.hiLo.toNat * 2 ^ 128 + n.loHi.toNat * 2 ^ 64 + n.loLo.toNat

/-- The digits of an integer, the highest with its sign. -/
def ofInt (n : Int) : Int256Parts :=
  ⟨Int64.ofInt (n / 2 ^ 64 / 2 ^ 64 / 2 ^ 64), UInt64.ofInt (n / 2 ^ 64 / 2 ^ 64),
    UInt64.ofInt (n / 2 ^ 64), UInt64.ofInt n⟩

theorem digitSum_eq (n : Int256Parts) :
    n.digitSum = ((n.hiHi.toInt * 2 ^ 64 + n.hiLo.toNat) * 2 ^ 64 + n.loHi.toNat) * 2 ^ 64 +
      n.loLo.toNat := by
  rw [digitSum]
  ring

theorem ofInt_digitSum (n : Int256Parts) : ofInt n.digitSum = n := by
  rw [ofInt, digitSum_eq]
  simp only [ediv_digit, ofInt_digit, Int64.ofInt_toInt]

theorem writtenExactly : WrittenExactly (fun n => toString n.toInt) digitSum ofInt :=
  ContractEvents.writtenExactly
    (fun n => congrArg toString (n.toInt_eq.trans n.digitSum_eq.symm)) ofInt_digitSum

end Int256Parts

/-! ### Integers in decoded values -/

namespace Value

/-- The integer that a value is. -/
def integer? : Value → Option Int
  | .u32 n => some n.toNat
  | .i32 n => some n.toInt
  | .u64 n | .timepoint n | .duration n => some n.toNat
  | .i64 n => some n.toInt
  | .u128 n => some n.digitSum
  | .i128 n => some n.digitSum
  | .u256 n => some n.digitSum
  | .i256 n => some n.digitSum
  | _ => none

/-- A number comes from an integer that fits into 32 bits, signed or not, and a text of digits from
the integer of which it is the decimal. -/
def WrittenAs (node : Value) : NativeValue → Prop
  | .number n => node.integer? = some n ∧ -2 ^ 31 ≤ n ∧ n < 2 ^ 32
  | .bigInt text => ∃ n, node.integer? = some n ∧ IsDecimal text n
  | _ => True

theorem writtenAs_of_decode {node : Value} {native : NativeValue}
    (decoded : node.decode = .ok native) : node.WrittenAs native := by
  cases node with
  | u32 word =>
      cases decoded
      have bound := word.toNat_lt
      exact ⟨rfl, by omega, by omega⟩
  | i32 word =>
      cases decoded
      have above := word.le_toInt
      have below := word.toInt_lt
      exact ⟨rfl, by omega, by omega⟩
  | u64 word | timepoint word | duration word =>
      cases decoded
      exact ⟨_, rfl, isDecimal_toString word.toNat⟩
  | i64 word =>
      cases decoded
      exact ⟨_, rfl, isDecimal_toString word.toInt⟩
  | u128 n =>
      cases decoded
      exact ⟨_, rfl, UInt128Parts.writtenExactly.decimal n⟩
  | i128 n =>
      cases decoded
      exact ⟨_, rfl, Int128Parts.writtenExactly.decimal n⟩
  | u256 n =>
      cases decoded
      exact ⟨_, rfl, UInt256Parts.writtenExactly.decimal n⟩
  | i256 n =>
      cases decoded
      exact ⟨_, rfl, Int256Parts.writtenExactly.decimal n⟩
  | vec items => cases items with
    | none =>
        cases decoded
        trivial
    | some items =>
        obtain ⟨_, -, rfl⟩ := map_eq_ok_iff.mp decoded
        trivial
  | map entries => cases entries with
    | none =>
        cases decoded
        trivial
    | some entries =>
        obtain ⟨_, -, rfl⟩ := map_eq_ok_iff.mp decoded
        trivial
  | string _ | symbol _ | address _ =>
      obtain ⟨_, -, rfl⟩ := map_eq_ok_iff.mp decoded
      trivial
  | _ =>
      cases decoded
      trivial

/-- What is known of the integers in a native form, wherever they are nested. -/
structure IntegersExact (value : Value) (native : NativeValue) : Prop where
  /-- A number fits into 32 bits, signed or not, and is the integer at its place. -/
  numbers : ∀ place n, native.node? place = some (.number n) →
    -2 ^ 31 ≤ n ∧ n < 2 ^ 32 ∧ ∃ node, value.node? place = some node ∧ node.integer? = some n
  /-- A text of digits is the decimal of the integer at its place. -/
  texts : ∀ place text, native.node? place = some (.bigInt text) →
    ∃ node n, value.node? place = some node ∧ node.integer? = some n ∧ IsDecimal text n

theorem integersExact_of_decode {value : Value} {native : NativeValue}
    (decoded : value.decode = .ok native) : IntegersExact value native where
  numbers := by
    intro place n found
    obtain ⟨node, held, decodedNode⟩ := (sameTree_of_decode decoded).exists_node found
    obtain ⟨integer, above, below⟩ := writtenAs_of_decode decodedNode
    exact ⟨above, below, node, held, integer⟩
  texts := by
    intro place text found
    obtain ⟨node, held, decodedNode⟩ := (sameTree_of_decode decoded).exists_node found
    obtain ⟨n, integer, decimal⟩ := writtenAs_of_decode decodedNode
    exact ⟨node, n, held, integer, decimal⟩

/-- Integers of 128 and 256 bits are written exactly, and so are all integers in the native form of
a value. -/
theorem integers_exact :
    WrittenExactly (fun n : UInt128Parts => toString n.toNat) UInt128Parts.digitSum
        UInt128Parts.ofInt ∧
      WrittenExactly (fun n : Int128Parts => toString n.toInt) Int128Parts.digitSum
        Int128Parts.ofInt ∧
      WrittenExactly (fun n : UInt256Parts => toString n.toNat) UInt256Parts.digitSum
        UInt256Parts.ofInt ∧
      WrittenExactly (fun n : Int256Parts => toString n.toInt) Int256Parts.digitSum
        Int256Parts.ofInt ∧
      ∀ (value : Value) (native : NativeValue), value.decode = .ok native →
        IntegersExact value native :=
  ⟨UInt128Parts.writtenExactly, Int128Parts.writtenExactly, UInt256Parts.writtenExactly,
    Int256Parts.writtenExactly, fun _ _ => integersExact_of_decode⟩

/-- The integers of an entry inside of a vector, both negative, one of them in four parts. -/
theorem integers_exact_nested :
    ∃ value native,
      value = .vec (some [.map (some [(.i32 (-1), .i256 ⟨-1, 0xFFFFFFFFFFFFFFFF,
        0xFFFFFFFFFFFFFFFF, 0⟩)])]) ∧
      value.decode = .ok native ∧ IntegersExact value native ∧
      native.node? [.item 0, .key 0] = some (.number (-1)) ∧
      native.node? [.item 0, .value 0] = some (.bigInt "-18446744073709551616") := by
  obtain ⟨-, -, -, -, exact_of_decode⟩ := integers_exact
  exact ⟨_, _, rfl, rfl, exact_of_decode _ _ rfl, rfl, rfl⟩

end Value

end ContractEvents
