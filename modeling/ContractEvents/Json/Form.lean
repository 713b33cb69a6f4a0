/-
Module: ContractEvents.Json.Form
Purpose: The form of JSON values, checked without reading them.
Main exports: Json.skipSpace, Json.isDigit, Json.skipValue
-/
import ContractEvents.Bytes.Hex

namespace ContractEvents.Json

/-!
A value that nobody asks for only has to have the right form.  Its numbers may be too large to be
held, its strings may contain half a surrogate pair, and it may be nested as deep as it likes.
-/

/-- Space, line feed, tab or carriage return. -/
def isSpace (b : UInt8) : Bool := b == 0x20 || b == 0x0A || b == 0x09 || b == 0x0D

/-- Drops leading white space. -/
def skipSpace (bs : Bytes) : Bytes := bs.dropWhile isSpace

/-- A decimal digit. -/
def isDigit (b : UInt8) : Bool := 0x30 ≤ b && b ≤ 0x39

/-- Drops a run of digits, which must not be empty. -/
def skipDigits : Bytes → Option Bytes
  | [] => none
  | b :: rest => if isDigit b then some (rest.dropWhile isDigit) else none

/-- Drops the digits in front of the point.  Only a lone zero may start with the digit zero. -/
def skipWhole : Bytes → Option Bytes
  | 0x30 :: rest => if (rest.head?.map isDigit).getD false then none else some rest
  | bs => skipDigits bs

/-- Drops a point with the digits behind it, if there is one. -/
def skipFraction : Bytes → Option Bytes
  | 0x2E :: rest => skipDigits rest
  | bs => some bs

/-- Drops the digits of an exponent with their sign. -/
def skipSigned : Bytes → Option Bytes
  | 0x2B :: rest => skipDigits rest
  | 0x2D :: rest => skipDigits rest
  | bs => skipDigits bs

/-- Drops an exponent, if there is one. -/
def skipExponent : Bytes → Option Bytes
  | 0x65 :: rest => skipSigned rest
  | 0x45 :: rest => skipSigned rest
  | bs => some bs

/-- Drops a number, behind its sign. -/
def skipNumber (bs : Bytes) : Option Bytes := do
  skipExponent (← skipFraction (← skipWhole bs))

/-- Where in a string a reader is: `code` counts the digits of an escape that are still to come. -/
inductive StringState where
  | plain
  | escape
  | code (digits : Nat)
deriving DecidableEq, Repr, Inhabited

/-- Is it a letter or sign that forms an escape on its own? -/
def isSimpleEscape (b : UInt8) : Bool :=
  [0x22, 0x5C, 0x2F, 0x62, 0x66, 0x6E, 0x72, 0x74].contains b

/-- Is it a hexadecimal digit? -/
def isHexDigit (b : UInt8) : Bool := (hexValue? (Char.ofNat b.toNat)).isSome

/-- Drops a string, behind its first quote. -/
def skipString : StringState → Bytes → Option Bytes
  | _, [] => none
  | .plain, b :: rest =>
      if b = 0x22 then some rest
      else if b = 0x5C then skipString .escape rest
      else if b < 0x20 then none
      else skipString .plain rest
  | .escape, b :: rest =>
      if b = 0x75 then skipString (.code 4) rest
      else if isSimpleEscape b then skipString .plain rest
      else none
  | .code digits, b :: rest =>
      if !isHexDigit b then none
      else if digits ≤ 1 then skipString .plain rest
      else skipString (.code (digits - 1)) rest

/-- Drops the bytes of a word. -/
def skipWord (word bs : Bytes) : Option Bytes :=
  if word.isPrefixOf bs then some (bs.drop word.length) else none

/-- Drops a value that is no container. -/
def skipScalar : Bytes → Option Bytes
  | [] => none
  | b :: rest =>
      if b = 0x22 then skipString .plain rest
      else if b = 0x2D then skipNumber rest
      else if isDigit b then skipNumber (b :: rest)
      else if b = 0x6E then skipWord [0x75, 0x6C, 0x6C] rest
      else if b = 0x74 then skipWord [0x72, 0x75, 0x65] rest
      else if b = 0x66 then skipWord [0x61, 0x6C, 0x73, 0x65] rest
      else none

/-- Drops the name of a member and the colon behind it. -/
def skipName (bs : Bytes) : Option Bytes :=
  match skipSpace bs with
  | 0x22 :: rest => do
      match skipSpace (← skipString .plain rest) with
      | 0x3A :: rest => some rest
      | _ => none
  | _ => none

/-- A container that is open. -/
inductive Container where
  | array
  | object
deriving DecidableEq, Repr, Inhabited

mutual

/-- Drops a value and what ends the open containers around it, the innermost first. -/
def skipOpen : (fuel : Nat) → List Container → Bytes → Option Bytes
  | 0, _, _ => none
  | fuel + 1, containers, bs =>
      match skipSpace bs with
      | 0x5B :: rest =>
          match skipSpace rest with
          | 0x5D :: rest => skipClose fuel containers rest
          | rest => skipOpen fuel (.array :: containers) rest
      | 0x7B :: rest =>
          match skipSpace rest with
          | 0x7D :: rest => skipClose fuel containers rest
          | rest =>
              match skipName rest with
              | some rest => skipOpen fuel (.object :: containers) rest
              | none => none
      | bs =>
          match skipScalar bs with
          | some rest => skipClose fuel containers rest
          | none => none

/-- Drops what stands behind a value in the open containers. -/
def skipClose : (fuel : Nat) → List Container → Bytes → Option Bytes
  | _, [], bs => some bs
  | 0, _ :: _, _ => none
  | fuel + 1, container :: others, bs =>
      match container, skipSpace bs with
      | .array, 0x2C :: rest => skipOpen fuel (container :: others) rest
      | .array, 0x5D :: rest => skipClose fuel others rest
      | .object, 0x2C :: rest =>
          match skipName rest with
          | some rest => skipOpen fuel (container :: others) rest
          | none => none
      | .object, 0x7D :: rest => skipClose fuel others rest
      | _, _ => none

end

/-- Drops a value.  Every turn takes a byte, so fuel for one turn more than there are bytes is
enough. -/
def skipValue (fuel : Nat) (bs : Bytes) : Option Bytes := skipOpen fuel [] bs

end ContractEvents.Json
