/-
Module: ContractEvents.Text.Utf8
Purpose: UTF-8, with the exact place and extent of the first ill-formed sequence.
Main exports: Utf8.encode, Utf8.decode, Utf8.Fault
-/
import ContractEvents.Bytes.Basic

namespace ContractEvents.Utf8

/-!
A byte sequence is read one character at a time.  A sequence that no well-formed character starts
with is reported by the index where the longest well-formed part ends and by the number of bytes
there that some well-formed character does start with, but at least one.  Where the bytes end inside
such a start, the sequence is incomplete instead.
-/

/-- Why a byte sequence is not UTF-8. -/
inductive Fault where
  /-- `length` bytes from `index` on belong to no character. -/
  | illFormed (length index : Nat)
  /-- The bytes end inside the character that starts at `index`. -/
  | incomplete (index : Nat)
deriving DecidableEq, Repr, Inhabited

/-- The reason in words. -/
def Fault.message : Fault → String
  | .illFormed length index =>
      s!"invalid utf-8 sequence of {length} bytes from index {index}"
  | .incomplete index => s!"incomplete utf-8 byte sequence from index {index}"

/-- The bytes of one character: one to four, by the size of its code point. -/
def encodeChar (c : Char) : Bytes :=
  let n := c.toNat
  if n < 0x80 then [UInt8.ofNat n]
  else if n < 0x800 then [UInt8.ofNat (0xC0 + n / 64), UInt8.ofNat (0x80 + n % 64)]
  else if n < 0x10000 then
    [UInt8.ofNat (0xE0 + n / 4096), UInt8.ofNat (0x80 + n / 64 % 64),
      UInt8.ofNat (0x80 + n % 64)]
  else
    [UInt8.ofNat (0xF0 + n / 262144), UInt8.ofNat (0x80 + n / 4096 % 64),
      UInt8.ofNat (0x80 + n / 64 % 64), UInt8.ofNat (0x80 + n % 64)]

/-- The bytes of a character list. -/
def encodeChars (cs : List Char) : Bytes := cs.flatMap encodeChar

/-- The bytes of a text. -/
def encode (s : String) : Bytes := encodeChars s.toList

/-- A byte of the range `80` to `BF`, which continues a character. -/
def isTail (b : UInt8) : Bool := 0x80 ≤ b && b ≤ 0xBF

/-- May `second` follow `first` at the start of a character of three bytes?  Overlong forms and
surrogates are refused here. -/
def isSecondOfThree (first second : UInt8) : Bool :=
  if first == 0xE0 then 0xA0 ≤ second && second ≤ 0xBF
  else if first == 0xED then 0x80 ≤ second && second ≤ 0x9F
  else isTail second

/-- May `second` follow `first` at the start of a character of four bytes?  Overlong forms and code
points above `10FFFF` are refused here. -/
def isSecondOfFour (first second : UInt8) : Bool :=
  if first == 0xF0 then 0x90 ≤ second && second ≤ 0xBF
  else if first == 0xF4 then 0x80 ≤ second && second ≤ 0x8F
  else isTail second

/-- The six low bits of a byte. -/
def tailBits (b : UInt8) : Nat := b.toNat % 64

/-- Reads characters from the byte at `index` on. -/
def decodeFrom (index : Nat) : Bytes → Except Fault (List Char)
  | [] => .ok []
  | a :: rest =>
      if a < 0x80 then
        (Char.ofNat a.toNat :: ·) <$> decodeFrom (index + 1) rest
      else if 0xC2 ≤ a && a ≤ 0xDF then
        match rest with
        | [] => .error (.incomplete index)
        | b :: rest =>
            if !isTail b then .error (.illFormed 1 index)
            else
              (Char.ofNat (a.toNat % 32 * 64 + tailBits b) :: ·) <$> decodeFrom (index + 2) rest
      else if 0xE0 ≤ a && a ≤ 0xEF then
        match rest with
        | [] => .error (.incomplete index)
        | b :: rest =>
            if !isSecondOfThree a b then .error (.illFormed 1 index)
            else match rest with
              | [] => .error (.incomplete index)
              | c :: rest =>
                  if !isTail c then .error (.illFormed 2 index)
                  else
                    (Char.ofNat (a.toNat % 16 * 4096 + tailBits b * 64 + tailBits c) :: ·) <$>
                      decodeFrom (index + 3) rest
      else if 0xF0 ≤ a && a ≤ 0xF4 then
        match rest with
        | [] => .error (.incomplete index)
        | b :: rest =>
            if !isSecondOfFour a b then .error (.illFormed 1 index)
            else match rest with
              | [] => .error (.incomplete index)
              | c :: rest =>
                  if !isTail c then .error (.illFormed 2 index)
                  else match rest with
                    | [] => .error (.incomplete index)
                    | d :: rest =>
                        if !isTail d then .error (.illFormed 3 index)
                        else
                          (Char.ofNat (a.toNat % 8 * 262144 + tailBits b * 4096 + tailBits c * 64 +
                            tailBits d) :: ·) <$> decodeFrom (index + 4) rest
      else .error (.illFormed 1 index)

/-- The text of a byte sequence, if it is UTF-8. -/
def decode (bs : Bytes) : Except Fault String :=
  String.ofList <$> decodeFrom 0 bs

end ContractEvents.Utf8
