/-
Module: ContractEvents.Bytes.Hex
Purpose: Byte sequences as hexadecimal text.
Main exports: hexDigit, hexValue?, toHex, ofHex?
-/
import ContractEvents.Bytes.Basic

namespace ContractEvents

/-- The lower-case digit of a number below sixteen. -/
def hexDigit (n : Nat) : Char :=
  if n < 10 then Char.ofNat (48 + n) else Char.ofNat (87 + n)

/-- The value of a hexadecimal digit of either case. -/
def hexValue? (c : Char) : Option Nat :=
  if '0' ≤ c ∧ c ≤ '9' then some (c.toNat - 48)
  else if 'a' ≤ c ∧ c ≤ 'f' then some (c.toNat - 87)
  else if 'A' ≤ c ∧ c ≤ 'F' then some (c.toNat - 55)
  else none

namespace Bytes

/-- Two lower-case digits a byte. -/
def hexChars : Bytes → List Char
  | [] => []
  | b :: rest => hexDigit (b.toNat / 16) :: hexDigit (b.toNat % 16) :: hexChars rest

/-- Two lower-case digits a byte, as text. -/
def toHex (bs : Bytes) : String := String.ofList (hexChars bs)

/-- Reads pairs of digits; an odd digit at the end or any other character refuses the text. -/
def ofHexChars? : List Char → Option Bytes
  | [] => some []
  | [_] => none
  | a :: b :: rest => do
      let high ← hexValue? a
      let low ← hexValue? b
      let bytes ← ofHexChars? rest
      return UInt8.ofNat (high * 16 + low) :: bytes

/-- Reads hexadecimal text of either case. -/
def ofHex? (s : String) : Option Bytes := ofHexChars? s.toList

end Bytes

theorem hexValue?_hexDigit {n : Nat} (h : n < 16) : hexValue? (hexDigit n) = some n := by
  revert h
  revert n
  decide

end ContractEvents
