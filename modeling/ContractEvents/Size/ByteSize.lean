/-
Module: ContractEvents.Size.ByteSize
Purpose: Sizes as people write them, such as 1GB, 1.5 KiB or 80 Mbit.
Main exports: ByteSize.parse, ByteSize.Fault, ByteSize.Fault.message, ByteSize.refusal
-/
import ContractEvents.Size.Decimal
import ContractEvents.Text.Blank
import ContractEvents.Text.Quoted

namespace ContractEvents.ByteSize

/-!
A size is a decimal number and a unit, with spaces between them if one likes.  The unit is a letter
for a power of 1000, which an `i` turns into the same power of 1024, and then `B` for bytes or `b`
for bits; either may be left out, and bytes are meant then.  `it` or `its` behind either letter
means bits.  The size in bytes is rounded up.
-/

/-- What may stand where a unit goes wrong. -/
inductive Expected where
  | unit
  | byteOrBit
  | bitTail
  | bitEnd
  | plural
  | nothing
deriving DecidableEq, Repr, Inhabited

/-- What is expected, in words. -/
def Expected.text : Expected → String
  | .unit => "'B', 'K', 'M', 'G', 'T', 'P' or 'E' or no character is expected"
  | .byteOrBit => "'B' or 'b' or no character is expected"
  | .bitTail => "'i' or no character is expected"
  | .bitEnd => "'t' is expected"
  | .plural => "'s' or no character is expected"
  | .nothing => "no character is expected"

/-- Why a text is no size. -/
inductive Fault where
  | noValue
  | notNumber (found : Char)
  | tooLong
  | badUnit (found : Char) (expected : Expected)
  | outOfRange (value : Decimal)
deriving DecidableEq, Repr, Inhabited

/-- The fault in words. -/
def Fault.message : Fault → String
  | .noValue => "no value can be found"
  | .notNumber found => "the character " ++ Text.quotedChar found ++ " is not a number"
  | .tooLong => "value number is too long"
  | .badUnit found expected =>
      "the character " ++ Text.quotedChar found ++ " is incorrect (" ++ expected.text ++ ")"
  | .outOfRange value => "the value " ++ value.text ++ " exceeds the valid range"

/-- The value of a decimal digit. -/
def digit? (c : Char) : Option Nat := if c.isDigit then some (c.toNat - '0'.toNat) else none

/-- Reads the digits before the point, after those that make up `value`. -/
def readWhole (value : Nat) : List Char → Except Fault (Nat × List Char)
  | [] => .ok (value, [])
  | c :: rest =>
      match digit? c with
      | none => .ok (value, c :: rest)
      | some digit =>
          let value := value * 10 + digit
          if value < Decimal.coefficientBound then readWhole value rest else .error .tooLong

/-- Reads the digits behind the point, of which the next one stands at `place`. -/
def readPlaces (value : Decimal) (place : Nat) : List Char → Except Fault (Decimal × List Char)
  | [] => .ok (value, [])
  | c :: rest =>
      match digit? c with
      | none => .ok (value, c :: rest)
      | some digit =>
          if Decimal.maxPlaces < place then .error .tooLong
          else
            match value.addDigit digit place with
            | none => .error .tooLong
            | some value => readPlaces value (place + 1) rest

/-- Reads a number: a digit, more digits, and perhaps a point with at least one digit behind it. -/
def readNumber : List Char → Except Fault (Decimal × List Char)
  | [] => .error .noValue
  | first :: rest => do
      if (digit? first).isNone then throw (.notNumber first)
      let (whole, rest) ← readWhole 0 (first :: rest)
      match rest with
      | ['.'] => throw (.notNumber '.')
      | '.' :: c :: rest =>
          if (digit? c).isNone then throw (.notNumber c)
          readPlaces ⟨whole, 0⟩ 1 (c :: rest)
      | rest => return (⟨whole, 0⟩, rest)

/-- A unit of size. -/
inductive SizeUnit where
  | bit
  | bytes (count : Nat)
deriving DecidableEq, Repr, Inhabited

/-- Which power of 1000 or 1024 a letter stands for. -/
def power? (c : Char) : Option Nat :=
  match c.toUpper with
  | 'K' => some 1
  | 'M' => some 2
  | 'G' => some 3
  | 'T' => some 4
  | 'P' => some 5
  | 'E' => some 6
  | _ => none

/-- Reads what follows `B` or `b`, and tells whether bits are meant.  An `i` with nothing behind it
is reported in lower case, however it is written. -/
def readBitTail (bits : Bool) : List Char → Except Fault Bool
  | [] => .ok bits
  | i :: rest =>
      if i.toLower != 'i' then .error (.badUnit i .bitTail)
      else
        match rest with
        | [] => .error (.badUnit i.toLower .nothing)
        | t :: rest =>
            if t.toLower != 't' then .error (.badUnit t .bitEnd)
            else
              match rest with
              | [] => .ok true
              | s :: rest =>
                  if s.toLower != 's' then .error (.badUnit s .plural)
                  else
                    match rest with
                    | [] => .ok true
                    | c :: _ => .error (.badUnit c .nothing)

/-- Reads the unit of `count` bytes or bits. -/
def readByteOrBit (count : Nat) (expected : Expected) : List Char → Except Fault SizeUnit
  | [] => .ok (.bytes count)
  | c :: rest => do
      if c != 'B' && c != 'b' then throw (.badUnit c expected)
      let bits ← readBitTail (c == 'b') rest
      return if !bits then .bytes count else if count = 1 then .bit else .bytes (count / 8)

/-- Reads a unit. -/
def readUnit : List Char → Except Fault SizeUnit
  | [] => .ok (.bytes 1)
  | c :: rest =>
      match power? c with
      | none => readByteOrBit 1 .unit (c :: rest)
      | some power =>
          match rest with
          | 'i' :: rest => readByteOrBit (Nat.pow 1024 power) .byteOrBit rest
          | 'I' :: rest => readByteOrBit (Nat.pow 1024 power) .byteOrBit rest
          | rest => readByteOrBit (Nat.pow 1000 power) .byteOrBit rest

/-- How many bytes a number of units takes, if the product has a form. -/
def bytesOf? (value : Decimal) : SizeUnit → Option Nat
  | .bit => some ((value.ceil + 7) / 8)
  | .bytes count => (value.times count).map Decimal.ceil

/-- Reads a size, with any blanks around it. -/
def parse (text : String) : Except Fault UInt64 := do
  let (value, rest) ← readNumber (Text.trimBlankChars text.toList)
  let unit ← readUnit (rest.dropWhile (· == ' '))
  match bytesOf? value unit with
  | none => throw (.outOfRange value)
  | some bytes =>
      if bytes < 0x10000000000000000 then return UInt64.ofNat bytes else throw (.outOfRange value)

/-- How a text that is no size is turned down. -/
def refusal (text : String) (fault : Fault) : String :=
  "Invalid size format: '" ++ text ++ "'. Error: " ++ fault.message

end ContractEvents.ByteSize
