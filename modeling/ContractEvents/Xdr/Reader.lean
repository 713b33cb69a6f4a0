/-
Module: ContractEvents.Xdr.Reader
Purpose: Readers for the binary forms that values, listings and events are made of.
Main exports: Xdr.Reader, Reader.word, Reader.long, Reader.blob, Reader.list, Reader.optional,
  Reader.runText
-/
import ContractEvents.Xdr.Source

namespace ContractEvents.Xdr

/-!
Data is big-endian and comes in units of four bytes.  Byte strings and lists carry their length in
front, and byte strings are filled up with zeros to a whole unit.  A reader may run under a limit of
nesting: each value read inside another takes one level, numbers included.
-/

/-- A reader takes a value from the front of a source, with a limit of nesting if there is one. -/
abbrev Reader := ReaderT (Option Nat) (StateT Source (Except Fault))

namespace Reader

/-- Refuses the data. -/
def fail {α : Type} (fault : Fault) : Reader α := fun _ _ => .error fault

/-- Runs a reader one level deeper. -/
def nested {α : Type} (reader : Reader α) : Reader α := fun limit =>
  match limit with
  | none => reader none
  | some 0 => fun _ => .error .tooDeep
  | some (levels + 1) => reader (some levels)

/-- Exactly `n` bytes. -/
def bytes (n : Nat) : Reader Bytes := fun _ source => source.take n

/-- A 32-bit word. -/
def word : Reader UInt32 := nested do return Bytes.toWord (← bytes 4)

/-- A 64-bit word. -/
def long : Reader UInt64 := nested do return Bytes.toLong (← bytes 8)

/-- A 32-bit integer in two's complement. -/
def signedWord : Reader Int32 := nested do return (Bytes.toWord (← bytes 4)).toInt32

/-- A 64-bit integer in two's complement. -/
def signedLong : Reader Int64 := nested do return (Bytes.toLong (← bytes 8)).toInt64

/-- A truth value: the word one, and no other, is true. -/
def flag : Reader Bool := nested do return (← word) == 1

/-- A discriminant, by the reading of its number. -/
def choice {α : Type} (read : UInt32 → Option α) : Reader α := nested do
  match read (← word) with
  | some a => return a
  | none => fail .invalid

/-- How many zeros fill up `n` bytes. -/
def fill (n : Nat) : Nat := (4 - n % 4) % 4

/-- A byte string of at most `max` bytes.  Its bytes and its fill must all be there. -/
def blob (max : Nat) : Reader Bytes := nested do
  let length := (← word).toNat
  if max < length then fail .tooLong
  let body ← bytes length
  let zeros ← bytes (fill length)
  if zeros.any (· != 0) then fail .padding
  return body

/-- `count` values one after the other. -/
def replicate {α : Type} (reader : Reader α) : (count : Nat) → Reader (List α)
  | 0 => return []
  | count + 1 => do
      let first ← reader
      let others ← replicate reader count
      return first :: others

/-- The largest length a list can have. -/
def unbounded : Nat := 0xFFFFFFFF

/-- A list of at most `max` values. -/
def list {α : Type} (max : Nat) (reader : Reader α) : Reader (List α) := nested do
  let length := (← word).toNat
  if max < length then fail .tooLong
  replicate reader length

/-- A value that may be absent: zero for none, one in front of the value. -/
def optional {α : Type} (reader : Reader α) : Reader (Option α) := nested do
  let present ← word
  if present = 0 then return none
  else if present = 1 then return some (← reader)
  else fail .invalid

/-- Nothing may be left. -/
def finish : Reader Unit := fun _ source =>
  match source.request 1 with
  | .error fault => .error (.base64 fault)
  | .ok ([], rest) => .ok ((), rest)
  | .ok (_ :: _, _) => .error .invalid

/-- Reads a whole base64 text, without a limit of nesting.  `reader` takes a bound on the nesting
that the text has room for. -/
def runText {α : Type} (reader : Nat → Reader α) (text : String) : Except Fault α := do
  let source := Source.ofText text
  let (value, rest) ← reader source.bound none source
  let _ ← finish none rest
  return value

end Reader

end ContractEvents.Xdr
