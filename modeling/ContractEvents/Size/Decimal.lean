/-
Module: ContractEvents.Size.Decimal
Purpose: Decimal numbers with a 96-bit coefficient.
Main exports: Decimal, Decimal.fit, Decimal.addDigit, Decimal.times, Decimal.ceil, Decimal.text
-/

namespace ContractEvents

/-!
A size is written with a decimal number, of which at most 96 bits of digits and 28 places are kept.
A result that needs more digits gives up places at its end and is rounded to the nearest number that
fits, a tie going to the even neighbour.  A result that is too large without any place has no form.
-/

/-- The number `coefficient / 10 ^ places`. -/
structure Decimal where
  coefficient : Nat
  places : Nat
deriving DecidableEq, Repr, Inhabited

namespace Decimal

/-- Every coefficient has 96 bits at most, so it is less than this. -/
def coefficientBound : Nat := 0x1000000000000000000000000

/-- No number has more places. -/
def maxPlaces : Nat := 28

/-- The whole number nearest to a quotient; of two that are equally near, the even one. -/
def roundDiv (num den : Nat) : Nat :=
  let quotient := num / den
  let rest := num % den
  if 2 * rest < den then quotient
  else if den < 2 * rest then quotient + 1
  else quotient + quotient % 2

/-- How many places a coefficient gives up, given how many it has and how many have been given up
already.  The answer is the least that makes the coefficient fit, if the places suffice. -/
def placesToDrop (coefficient dropped : Nat) : (places : Nat) → Nat
  | 0 => dropped
  | places + 1 =>
      if coefficient / Nat.pow 10 dropped < coefficientBound then dropped
      else placesToDrop coefficient (dropped + 1) places

/-- The nearest decimal of `coefficient / 10 ^ places`. -/
def fit (coefficient places : Nat) : Option Decimal :=
  let dropped := placesToDrop coefficient 0 places
  let rounded := roundDiv coefficient (Nat.pow 10 dropped)
  if rounded < coefficientBound then some ⟨rounded, places - dropped⟩
  else if dropped < places then some ⟨roundDiv rounded 10, places - dropped - 1⟩
  else none

/-- Adds a digit at a place behind all places that the number has. -/
def addDigit (value : Decimal) (digit place : Nat) : Option Decimal :=
  if digit = 0 then some value
  else fit (value.coefficient * Nat.pow 10 (place - value.places) + digit) place

/-- A whole multiple. -/
def times (value : Decimal) (n : Nat) : Option Decimal :=
  fit (value.coefficient * n) value.places

/-- The least whole number that is not less. -/
def ceil (value : Decimal) : Nat :=
  (value.coefficient + (Nat.pow 10 value.places - 1)) / Nat.pow 10 value.places

/-- The digits, with a point in front of the places. -/
def text (value : Decimal) : String :=
  let whole := toString (value.coefficient / Nat.pow 10 value.places)
  if value.places = 0 then whole
  else
    let digits := toString (value.coefficient % Nat.pow 10 value.places)
    whole ++ "." ++ String.ofList (List.replicate (value.places - digits.length) '0') ++ digits

end Decimal

end ContractEvents
