/-
Module: ContractEvents.Proofs.WideIntegers
Purpose: The integers that 64-bit parts spell.
Main exports: UInt128Parts.toNat_eq, Int128Parts.toInt_eq, UInt256Parts.toNat_eq,
  Int256Parts.toInt_eq, UInt128Parts.toNat_injective, Int128Parts.toInt_injective,
  UInt256Parts.toNat_injective, Int256Parts.toInt_injective
-/
import ContractEvents.Decoding.ValueDecoder
import Mathlib

namespace ContractEvents

/-!
The parts of a wide integer are its digits to the base `2^64`, of which only the highest may be
negative.  So parts that spell the same integer are the same.
-/

theorem toNat_append_word {n : Nat} (high : BitVec n) (low : UInt64) :
    (high ++ low.toBitVec).toNat = high.toNat * 2 ^ 64 + low.toNat := by
  rw [BitVec.toNat_append, ← Nat.shiftLeft_add_eq_or_of_lt low.toBitVec.isLt, Nat.shiftLeft_eq]
  rfl

theorem toInt_append_word {n : Nat} (positive : 0 < n) (high : BitVec n) (low : UInt64) :
    (high ++ low.toBitVec).toInt = high.toInt * 2 ^ 64 + low.toNat := by
  rw [BitVec.toInt_append, if_neg (by simpa using Nat.ne_of_gt positive), Int.mul_comm]
  rfl

theorem UInt128Parts.toNat_eq (n : UInt128Parts) :
    n.toNat = n.hi.toNat * 2 ^ 64 + n.lo.toNat := toNat_append_word _ _

theorem Int128Parts.toInt_eq (n : Int128Parts) :
    n.toInt = n.hi.toInt * 2 ^ 64 + n.lo.toNat := toInt_append_word (by decide) _ _

theorem UInt256Parts.toNat_eq (n : UInt256Parts) :
    n.toNat = ((n.hiHi.toNat * 2 ^ 64 + n.hiLo.toNat) * 2 ^ 64 + n.loHi.toNat) * 2 ^ 64 +
      n.loLo.toNat := by
  rw [toNat, toNat_append_word, toNat_append_word, toNat_append_word]
  rfl

theorem Int256Parts.toInt_eq (n : Int256Parts) :
    n.toInt = ((n.hiHi.toInt * 2 ^ 64 + n.hiLo.toNat) * 2 ^ 64 + n.loHi.toNat) * 2 ^ 64 +
      n.loLo.toNat := by
  rw [toInt, toInt_append_word (by decide), toInt_append_word (by decide),
    toInt_append_word (by decide)]
  rfl

/-! ### The parts of an integer -/

/-- The lowest digit of an integer, and what stands above it. -/
theorem eq_and_eq_of_digits {high high' : Int} {low low' : UInt64}
    (same : high * 2 ^ 64 + low.toNat = high' * 2 ^ 64 + low'.toNat) :
    high = high' ∧ low = low' := by
  have bound := low.toNat_lt
  have bound' := low'.toNat_lt
  rw [← UInt64.toNat_inj]
  omega

theorem Int128Parts.toInt_injective {one two : Int128Parts} (same : one.toInt = two.toInt) :
    one = two := by
  rw [toInt_eq, toInt_eq] at same
  obtain ⟨hi, lo⟩ := eq_and_eq_of_digits same
  cases one
  cases two
  exact congr (congrArg mk (Int64.toInt_inj.mp hi)) lo

theorem UInt128Parts.toNat_injective {one two : UInt128Parts} (same : one.toNat = two.toNat) :
    one = two := by
  rw [toNat_eq, toNat_eq] at same
  have digits := congrArg Int.ofNat same
  simp only [Int.ofNat_eq_natCast, Int.natCast_add, Int.natCast_mul, Int.natCast_pow] at digits
  obtain ⟨hi, lo⟩ := eq_and_eq_of_digits digits
  cases one
  cases two
  exact congr (congrArg mk (UInt64.toNat_inj.mp (Int.ofNat.inj hi))) lo

theorem Int256Parts.toInt_injective {one two : Int256Parts} (same : one.toInt = two.toInt) :
    one = two := by
  rw [toInt_eq, toInt_eq] at same
  obtain ⟨same, loLo⟩ := eq_and_eq_of_digits same
  obtain ⟨same, loHi⟩ := eq_and_eq_of_digits same
  obtain ⟨hiHi, hiLo⟩ := eq_and_eq_of_digits same
  cases one
  cases two
  exact congr (congr (congr (congrArg mk (Int64.toInt_inj.mp hiHi)) hiLo) loHi) loLo

theorem UInt256Parts.toNat_injective {one two : UInt256Parts} (same : one.toNat = two.toNat) :
    one = two := by
  rw [toNat_eq, toNat_eq] at same
  have digits := congrArg Int.ofNat same
  simp only [Int.ofNat_eq_natCast, Int.natCast_add, Int.natCast_mul, Int.natCast_pow] at digits
  obtain ⟨digits, loLo⟩ := eq_and_eq_of_digits digits
  obtain ⟨digits, loHi⟩ := eq_and_eq_of_digits digits
  obtain ⟨hiHi, hiLo⟩ := eq_and_eq_of_digits digits
  cases one
  cases two
  exact congr (congr (congr (congrArg mk (UInt64.toNat_inj.mp (Int.ofNat.inj hiHi))) hiLo) loHi)
    loLo

end ContractEvents
