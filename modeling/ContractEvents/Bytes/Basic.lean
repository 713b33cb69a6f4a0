/-
Module: ContractEvents.Bytes.Basic
Purpose: Byte sequences and the big-endian words read from and written to them.
Main exports: Bytes, ofWord, ofLong, toWord, toLong
-/

namespace ContractEvents

/-- A finite byte sequence. -/
abbrev Bytes := List UInt8

namespace Bytes

/-- The number a byte sequence spells in base 256, most significant byte first. -/
def toNat (bs : Bytes) : Nat :=
  bs.foldl (fun acc b => acc * 256 + b.toNat) 0

/-- The last `count` base-256 digits of a number, most significant first. -/
def ofNat : (count : Nat) → Nat → Bytes
  | 0, _ => []
  | count + 1, n => ofNat count (n / 256) ++ [UInt8.ofNat n]

/-- Four bytes, most significant first. -/
def ofWord (w : UInt32) : Bytes := ofNat 4 w.toNat

/-- Eight bytes, most significant first. -/
def ofLong (w : UInt64) : Bytes := ofNat 8 w.toNat

/-- The 32-bit word a byte sequence spells. -/
def toWord (bs : Bytes) : UInt32 := UInt32.ofNat (toNat bs)

/-- The 64-bit word a byte sequence spells. -/
def toLong (bs : Bytes) : UInt64 := UInt64.ofNat (toNat bs)

@[simp] theorem length_ofNat (count n : Nat) : (ofNat count n).length = count := by
  induction count generalizing n with
  | zero => rfl
  | succ count ih => simp [ofNat, ih]

@[simp] theorem length_ofWord (w : UInt32) : (ofWord w).length = 4 := length_ofNat ..

@[simp] theorem length_ofLong (w : UInt64) : (ofLong w).length = 8 := length_ofNat ..

theorem toNat_append_singleton (bs : Bytes) (b : UInt8) :
    toNat (bs ++ [b]) = toNat bs * 256 + b.toNat := by
  simp [toNat, List.foldl_append]

/-- Writing and reading back keeps a number that fits. -/
theorem toNat_ofNat {count n : Nat} (h : n < Nat.pow 256 count) : toNat (ofNat count n) = n := by
  induction count generalizing n with
  | zero =>
      obtain rfl : n = 0 := Nat.lt_one_iff.mp h
      rfl
  | succ count ih =>
      have step : Nat.pow 256 (count + 1) = Nat.pow 256 count * 256 := rfl
      have hq : n / 256 < Nat.pow 256 count := by
        rw [step] at h
        omega
      rw [ofNat, toNat_append_singleton, ih hq]
      simp
      omega

@[simp] theorem toWord_ofWord (w : UInt32) : toWord (ofWord w) = w := by
  simp only [toWord, ofWord]
  rw [toNat_ofNat (show w.toNat < Nat.pow 256 4 from w.toNat_lt)]
  simp

@[simp] theorem toLong_ofLong (w : UInt64) : toLong (ofLong w) = w := by
  simp only [toLong, ofLong]
  rw [toNat_ofNat (show w.toNat < Nat.pow 256 8 from w.toNat_lt)]
  simp

end Bytes

end ContractEvents
