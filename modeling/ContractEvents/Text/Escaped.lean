/-
Module: ContractEvents.Text.Escaped
Purpose: Byte strings as printable ASCII, and back.
Main exports: Escaped.encode, Escaped.decode?
-/
import ContractEvents.Bytes.Hex
import ContractEvents.Text.Utf8

namespace ContractEvents.Escaped

/-!
The strings of an interface listing are bytes.  Wherever one becomes a name, a prefix literal or a
doc text it is written in this form, in which every byte string has exactly one spelling.  Reading
is more liberal: any character outside the escapes stands for its UTF-8 bytes, and hexadecimal
digits may have either case.
-/

/-- The spelling of one byte. -/
def encodeByte (b : UInt8) : List Char :=
  if b = 0x00 then ['\\', '0']
  else if b = 0x09 then ['\\', 't']
  else if b = 0x0A then ['\\', 'n']
  else if b = 0x0D then ['\\', 'r']
  else if b = 0x5C then ['\\', '\\']
  else if 0x20 ≤ b ∧ b ≤ 0x7E then [Char.ofNat b.toNat]
  else ['\\', 'x', hexDigit (b.toNat / 16), hexDigit (b.toNat % 16)]

/-- The spelling of a byte string. -/
def encode (bs : Bytes) : String := String.ofList (bs.flatMap encodeByte)

/-- Reads a spelling.  A backslash that opens no escape refuses the text. -/
def decodeChars? : List Char → Option Bytes
  | [] => some []
  | '\\' :: '0' :: rest => (0x00 :: ·) <$> decodeChars? rest
  | '\\' :: 't' :: rest => (0x09 :: ·) <$> decodeChars? rest
  | '\\' :: 'n' :: rest => (0x0A :: ·) <$> decodeChars? rest
  | '\\' :: 'r' :: rest => (0x0D :: ·) <$> decodeChars? rest
  | '\\' :: '\\' :: rest => (0x5C :: ·) <$> decodeChars? rest
  | '\\' :: 'x' :: high :: low :: rest => do
      let h ← hexValue? high
      let l ← hexValue? low
      let bytes ← decodeChars? rest
      return UInt8.ofNat (h * 16 + l) :: bytes
  | c :: rest => if c = '\\' then none else (Utf8.encodeChar c ++ ·) <$> decodeChars? rest

/-- Reads a spelling. -/
def decode? (s : String) : Option Bytes := decodeChars? s.toList

end ContractEvents.Escaped
