/-
Module: ContractEvents.Text.Quoted
Purpose: Text and characters in quotes, as diagnostics show them.
Main exports: quoted, quotedChar
-/
import ContractEvents.Bytes.Hex
import ContractEvents.Text.Printable

namespace ContractEvents.Text

/-- The hexadecimal digits of a number, without leading zeros. -/
def hexDigits (n : Nat) : List Char :=
  if n < 16 then [hexDigit n] else hexDigits (n / 16) ++ [hexDigit (n % 16)]

/-- One character between quotes of the kind `quote`: the quote and the backslash take a backslash,
four control characters have a letter, and what a reader could not see is written by its code
point. -/
def quotedBody (quote c : Char) : List Char :=
  if c = '\x00' then ['\\', '0']
  else if c = '\t' then ['\\', 't']
  else if c = '\r' then ['\\', 'r']
  else if c = '\n' then ['\\', 'n']
  else if c = '\\' || c = quote then ['\\', c]
  else if isShownByCode c then ['\\', 'u', '\x7b'] ++ hexDigits c.toNat ++ ['\x7d']
  else [c]

/-- Text in double quotes. -/
def quoted (s : String) : String :=
  String.ofList ('"' :: s.toList.flatMap (quotedBody '"') ++ ['"'])

/-- A character in single quotes. -/
def quotedChar (c : Char) : String :=
  String.ofList ('\'' :: quotedBody '\'' c ++ ['\''])

end ContractEvents.Text
