/-
Module: ContractEvents.Bytes.Base64
Purpose: Base64 with the standard alphabet and canonical padding.
Main exports: Base64.encode, Base64.decodeQuads, Base64.Fault
-/
import ContractEvents.Bytes.Basic

namespace ContractEvents.Base64

/-!
Text comes as the bytes of its symbols.  Three bytes make a quad of four symbols; the last quad may
end in one or two pads, and the bits its last symbol does not need must be zero.  So every byte
sequence has one spelling, and `decodeQuads` accepts nothing else.
-/

/-- What is wrong with base64 text.  An offset counts symbols from the start of the text. -/
inductive Fault where
  /-- A byte that is no symbol, or a pad where none may stand. -/
  | symbol (byte : UInt8) (offset : Nat)
  /-- The last symbol sets bits that belong to no byte. -/
  | lastSymbol (byte : UInt8) (offset : Nat)
  /-- A single symbol is left over after `count - 1` others. -/
  | length (count : Nat)
  /-- The last quad lacks its pads. -/
  | padding
deriving DecidableEq, Repr, Inhabited

/-- The fault in words. -/
def Fault.message : Fault → String
  | .symbol byte offset => s!"Invalid symbol {byte.toNat}, offset {offset}."
  | .lastSymbol byte offset => s!"Invalid last symbol {byte.toNat}, offset {offset}."
  | .length count => s!"Invalid input length: {count}"
  | .padding => "Invalid padding"

/-- The pad `=`. -/
def pad : UInt8 := 0x3D

/-- The symbol of a number below 64. -/
def symbol (n : Nat) : UInt8 :=
  if n < 26 then UInt8.ofNat (65 + n)
  else if n < 52 then UInt8.ofNat (71 + n)
  else if n < 62 then UInt8.ofNat (n - 4)
  else if n = 62 then 0x2B
  else 0x2F

/-- The number of a symbol. -/
def value? (s : UInt8) : Option Nat :=
  let n := s.toNat
  if 65 ≤ n ∧ n ≤ 90 then some (n - 65)
  else if 97 ≤ n ∧ n ≤ 122 then some (n - 71)
  else if 48 ≤ n ∧ n ≤ 57 then some (n + 4)
  else if n = 43 then some 62
  else if n = 47 then some 63
  else none

/-- The symbols of a byte sequence. -/
def encodeSymbols : Bytes → Bytes
  | [] => []
  | [a] => [symbol (a.toNat / 4), symbol (a.toNat % 4 * 16), pad, pad]
  | [a, b] =>
      [symbol (a.toNat / 4), symbol (a.toNat % 4 * 16 + b.toNat / 16),
        symbol (b.toNat % 16 * 4), pad]
  | a :: b :: c :: rest =>
      symbol (a.toNat / 4) :: symbol (a.toNat % 4 * 16 + b.toNat / 16) ::
        symbol (b.toNat % 16 * 4 + c.toNat / 64) :: symbol (c.toNat % 64) :: encodeSymbols rest

/-- The text of a byte sequence. -/
def encode (bs : Bytes) : String :=
  String.ofList ((encodeSymbols bs).map fun s => Char.ofNat s.toNat)

/-- A decoded stretch: its bytes, and the offset of its first pad if it has one. -/
structure Decoded where
  bytes : Bytes
  padAt : Option Nat
deriving DecidableEq, Repr, Inhabited

/-- The three bytes of four numbers. -/
def bytesOfQuad (a b c d : Nat) : Bytes :=
  [UInt8.ofNat (a * 4 + b / 16), UInt8.ofNat (b % 16 * 16 + c / 4), UInt8.ofNat (c % 4 * 64 + d)]

/-- The number of the symbol at `offset`; a pad is no symbol here. -/
def value (s : UInt8) (offset : Nat) : Except Fault Nat :=
  match value? s with
  | some n => .ok n
  | none => .error (.symbol s offset)

/-- Splits the last quad, which starts at `start`, into the numbers of its symbols and the count of
its pads.  A pad may stand only behind two symbols, and only pads may follow it; otherwise the first
pad is the offending symbol. -/
def splitLast (start : Nat) (values : List Nat) (pads : Nat) :
    Bytes → Except Fault (List Nat × Nat)
  | [] => .ok (values, pads)
  | s :: rest =>
      if s = pad then
        if values.length + pads < 2 then .error (.symbol s (start + values.length + pads))
        else splitLast start values (pads + 1) rest
      else if 0 < pads then .error (.symbol pad (start + values.length))
      else do
        let n ← value s (start + values.length)
        splitLast start (values ++ [n]) 0 rest

/-- Decodes the last quad, one to four symbols from `start` on. -/
def decodeLast (start : Nat) (quad : Bytes) : Except Fault Decoded := do
  let (values, pads) ← splitLast start [] 0 quad
  if values.length < 2 then throw (.length (start + values.length))
  if (values.length + pads) % 4 ≠ 0 then throw .padding
  let padAt := if 0 < pads then some (start + values.length) else none
  match values with
  | [a, b] =>
      if b % 16 ≠ 0 then throw (.lastSymbol (symbol b) (start + 1))
      return ⟨(bytesOfQuad a b 0 0).take 1, padAt⟩
  | [a, b, c] =>
      if c % 4 ≠ 0 then throw (.lastSymbol (symbol c) (start + 2))
      return ⟨(bytesOfQuad a b c 0).take 2, padAt⟩
  | [a, b, c, d] => return ⟨bytesOfQuad a b c d, padAt⟩
  | _ => return ⟨[], padAt⟩

/-- Decodes the symbols from `start` on.  Only the last quad may be short or padded. -/
def decodeQuads (start : Nat) : Bytes → Except Fault Decoded
  | [] => .ok ⟨[], none⟩
  | a :: b :: c :: d :: e :: rest => do
      let first := bytesOfQuad (← value a start) (← value b (start + 1)) (← value c (start + 2))
        (← value d (start + 3))
      let others ← decodeQuads (start + 4) (e :: rest)
      return { others with bytes := first ++ others.bytes }
  | quad => decodeLast start quad

/-- Reads a whole text. -/
def decode (symbols : Bytes) : Except Fault Bytes :=
  Decoded.bytes <$> decodeQuads 0 symbols

theorem value?_symbol {n : Nat} (h : n < 64) : value? (symbol n) = some n := by
  revert h
  revert n
  decide

end ContractEvents.Base64
