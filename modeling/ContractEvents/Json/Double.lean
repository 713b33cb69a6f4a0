/-
Module: ContractEvents.Json.Double
Purpose: Binary floating-point numbers as exact values: rounding to one, and its shortest text.
Main exports: Double, Double.ofScientific?, Double.text
-/

namespace ContractEvents

/-!
No field of the data model holds a number with a fraction, but JSON text may, and a reader that
refuses one names it.  A double is kept as an exact value `mantissa * 2 ^ exponent`, so nothing here
depends on machine arithmetic.
-/

/-- A finite binary64 number.  Its mantissa has at most 53 bits. -/
structure Double where
  negative : Bool
  mantissa : Nat
  exponent : Int
deriving DecidableEq, Repr, Inhabited

namespace Double

/-- The quotient of two naturals, rounded to the nearest integer, ties to the even one. -/
def roundQuotient (num den : Nat) : Nat :=
  let q := num / den
  let twice := 2 * (num % den)
  if twice < den then q
  else if den < twice then q + 1
  else q + q % 2

/-- `num / den * 2 ^ shift` as a quotient of naturals. -/
def scale (num den : Nat) (shift : Int) : Nat × Nat :=
  if 0 ≤ shift then (num * Nat.pow 2 shift.toNat, den)
  else (num, den * Nat.pow 2 (-shift).toNat)

/-- The mantissa and exponent nearest to a positive quotient; `none` when it is too large. -/
def nearest? (num den : Nat) : Option (Nat × Int) :=
  if num = 0 then some (0, -1074)
  else
    let guess : Int := max (num.log2 - den.log2 - 53 : Int) (-1074)
    let (n, d) := scale num den (-guess)
    let exponent := if 0x20000000000000 ≤ n / d then guess + 1 else guess
    let (n, d) := scale num den (-exponent)
    let m := roundQuotient n d
    let (m, exponent) :=
      if m = 0x20000000000000 then (0x10000000000000, exponent + 1) else (m, exponent)
    if 971 < exponent then none else some (m, exponent)

/-- A mantissa and exponent as a quotient of naturals. -/
def ratio (m : Nat) (e : Int) : Nat × Nat :=
  if 0 ≤ e then (m * Nat.pow 2 e.toNat, 1) else (m, Nat.pow 2 (-e).toNat)

/-- The double nearest to a power of ten up to `10 ^ 308`. -/
def powerOfTen (k : Nat) : Nat × Int := (nearest? (Nat.pow 10 k) 1).getD (0, 0)

/-- Divides by a power of ten, rounding once for each step of at most `10 ^ 308`. -/
def divideByTens : (steps : Nat) → Nat × Int → Nat → Option (Nat × Int)
  | 0, value, _ => some value
  | steps + 1, (m, e), k => do
      let step := min k 308
      let (pm, pe) := powerOfTen step
      let (n, d) := ratio m e
      let (pn, pd) := ratio pm pe
      let quotient ← nearest? (n * pd) (d * pn)
      if k ≤ 308 then return quotient else divideByTens steps quotient (k - 308)

/-- The double of `significand * 10 ^ exponent`: the significand is rounded first, then its product
with, or quotient by, the power of ten.  `none` when the result is too large. -/
def ofScientific? (negative : Bool) (significand : Nat) (exponent : Int) : Option Double := do
  let (m, e) ← nearest? significand 1
  if m = 0 then return ⟨negative, 0, -1074⟩
  if 0 ≤ exponent then
    if 308 < exponent then none
    else
      let (pm, pe) := powerOfTen exponent.toNat
      let (n, d) := ratio m e
      let (pn, pd) := ratio pm pe
      let (m, e) ← nearest? (n * pn) (d * pd)
      return ⟨negative, m, e⟩
  else
    let (m, e) ← divideByTens 4 (m, e) (min (-exponent).toNat 1232)
    return ⟨negative, m, e⟩

/-- Does `digits * 10 ^ power` round to the double `m * 2 ^ e`?  It does between the midpoints to
the neighbours, and on them when the mantissa is even. -/
def roundsTo (m : Nat) (e : Int) (digits : Nat) (power : Int) : Bool :=
  let (n, d) :=
    if 0 ≤ power then (digits * Nat.pow 10 power.toNat, 1)
    else (digits, Nat.pow 10 (-power).toNat)
  match nearest? n d with
  | some found => found == (m, e)
  | none => false

/-- The decimal exponent `k` with `10 ^ (k - 1) ≤ n / d < 10 ^ k`, searched upwards from `k`. -/
def decimalExponent (n d : Nat) : (fuel : Nat) → Int → Int
  | 0, k => k
  | fuel + 1, k =>
      let below := if 0 ≤ k then n < d * Nat.pow 10 k.toNat else n * Nat.pow 10 (-k).toNat < d
      if below then k else decimalExponent n d fuel (k + 1)

/-- The same decimal number without zeros at the end of its digits.  Each turn takes a digit, so as
much fuel as there are digits is enough. -/
def withoutFinalZeros : (fuel : Nat) → Nat × Int → Nat × Int
  | 0, decimal => decimal
  | fuel + 1, (digits, power) =>
      if digits % 10 = 0 then withoutFinalZeros fuel (digits / 10, power + 1) else (digits, power)

/-- The fewest digits that read back as the double, the nearest of those, and the power of ten they
are multiplied by.  Rounding up may carry into a further digit, which leaves zeros behind. -/
def shortest (m : Nat) (e : Int) : Nat × Int :=
  let (n, d) := ratio m e
  let k := decimalExponent n d 700 (-330)
  let candidate (count : Nat) : Option (Nat × Int) :=
    let power : Int := k - count
    let (gn, gd) :=
      if 0 ≤ power then (n, d * Nat.pow 10 power.toNat) else (n * Nat.pow 10 (-power).toNat, d)
    let near := roundQuotient gn gd
    if roundsTo m e near power then some (near, power)
    else if roundsTo m e (gn / gd) power then some (gn / gd, power)
    else if roundsTo m e (gn / gd + 1) power then some (gn / gd + 1, power)
    else none
  withoutFinalZeros 18 (((List.range 17).findSome? fun i => candidate (i + 1)).getD (0, 0))

/-- Digits with the point behind the first `point` of them. -/
def withPoint (digits : List Char) (point : Nat) : List Char :=
  digits.take point ++ '.' :: digits.drop point

/-- The text of an exponent, which always has a sign. -/
def exponentText (e : Int) : List Char :=
  if 0 ≤ e then '+' :: (toString e).toList else (toString e).toList

/-- The shortest text: positional from `10 ^ -5` up to `10 ^ 16`, with an exponent beyond. -/
def text (x : Double) : String :=
  let sign := if x.negative then ['-'] else []
  if x.mantissa = 0 then String.ofList (sign ++ ['0', '.', '0'])
  else
    let (digits, power) := shortest x.mantissa x.exponent
    let ds := (toString digits).toList
    let point : Int := ds.length + power
    let body :=
      if 0 ≤ power && point ≤ 16 then ds ++ List.replicate power.toNat '0' ++ ['.', '0']
      else if 0 < point && point ≤ 16 then withPoint ds point.toNat
      else if -5 < point && point ≤ 0 then '0' :: '.' :: List.replicate (-point).toNat '0' ++ ds
      else
        let mantissa := if ds.length = 1 then ds else withPoint ds 1
        mantissa ++ 'e' :: exponentText (point - 1)
    String.ofList (sign ++ body)

end Double

end ContractEvents
