/-
Module: ContractEvents.Text.Blank
Purpose: The blank characters, and the text operations that look past them.
Main exports: isBlank, isAsciiBlank, trimBlanks, withoutBlanks, splitLines
-/

namespace ContractEvents.Text

/-!
Three places skip blanks, and each has its own notion of one.  Text that a person typed or pasted
(listing lines, sizes, event blobs) is trimmed of every character with the Unicode property
`White_Space`.  Binary text and the first byte of a listing skip the five ASCII blanks only.  JSON
skips four characters and keeps that rule beside its reader.
-/

/-- The Unicode property `White_Space`. -/
def isBlank (c : Char) : Bool :=
  let n := c.toNat
  (0x09 ≤ n && n ≤ 0x0D) || n == 0x20 || n == 0x85 || n == 0xA0 || n == 0x1680 ||
    (0x2000 ≤ n && n ≤ 0x200A) || n == 0x2028 || n == 0x2029 || n == 0x202F || n == 0x205F ||
    n == 0x3000

/-- Space, tab, line feed, form feed or carriage return; a vertical tab is not one of them. -/
def isAsciiBlank (b : UInt8) : Bool :=
  b == 0x20 || b == 0x09 || b == 0x0A || b == 0x0C || b == 0x0D

/-- Drops the leading and the trailing blanks of a character list. -/
def trimBlankChars (cs : List Char) : List Char :=
  ((cs.dropWhile isBlank).reverse.dropWhile isBlank).reverse

/-- Drops the leading and the trailing blanks. -/
def trimBlanks (s : String) : String :=
  String.ofList (trimBlankChars s.toList)

/-- Drops every blank, wherever it stands. -/
def withoutBlanks (s : String) : String :=
  String.ofList (s.toList.filter fun c => !isBlank c)

/-- The lines of a character list.  A line feed ends a line, alone or after one carriage return, and
a final one opens no further line. -/
def lineChars : List Char → List (List Char)
  | [] => []
  | '\r' :: '\n' :: rest => [] :: lineChars rest
  | '\n' :: rest => [] :: lineChars rest
  | c :: rest =>
      match lineChars rest with
      | [] => [[c]]
      | line :: lines => (c :: line) :: lines

/-- The lines of a text. -/
def splitLines (s : String) : List String :=
  (lineChars s.toList).map String.ofList

end ContractEvents.Text
