/-
Module: ContractEvents.Value.Codec
Purpose: Values in binary form: readers beside writers.
Main exports: Value.reader, Value.write, Value.ofText, Value.toText
-/
import ContractEvents.Value.Basic
import ContractEvents.Xdr.Writer

namespace ContractEvents

open Xdr

namespace Hash

/-- The 32 bytes of a hash. -/
def reader : Reader Hash := Reader.nested do
  let bs ← Reader.bytes 32
  if h : bs.length = 32 then return ⟨bs, h⟩ else Reader.fail .short

end Hash

/-- The number of an error code. -/
def ErrorCode.number : ErrorCode → UInt32
  | .arithDomain => 0
  | .indexBounds => 1
  | .invalidInput => 2
  | .missingValue => 3
  | .existingValue => 4
  | .exceededLimit => 5
  | .invalidAction => 6
  | .internalError => 7
  | .unexpectedType => 8
  | .unexpectedSize => 9

/-- The error code of a number. -/
def ErrorCode.ofNumber? (n : UInt32) : Option ErrorCode :=
  match n.toNat with
  | 0 => some .arithDomain
  | 1 => some .indexBounds
  | 2 => some .invalidInput
  | 3 => some .missingValue
  | 4 => some .existingValue
  | 5 => some .exceededLimit
  | 6 => some .invalidAction
  | 7 => some .internalError
  | 8 => some .unexpectedType
  | 9 => some .unexpectedSize
  | _ => none

/-- The number of an origin; zero is the contract itself. -/
def ErrorOrigin.number : ErrorOrigin → UInt32
  | .wasmVm => 1
  | .context => 2
  | .storage => 3
  | .object => 4
  | .crypto => 5
  | .events => 6
  | .budget => 7
  | .value => 8
  | .auth => 9

/-- The origin of a number, where zero is the contract itself. -/
def ErrorOrigin.ofNumber? (n : UInt32) : Option (Option ErrorOrigin) :=
  match n.toNat with
  | 0 => some none
  | 1 => some (some .wasmVm)
  | 2 => some (some .context)
  | 3 => some (some .storage)
  | 4 => some (some .object)
  | 5 => some (some .crypto)
  | 6 => some (some .events)
  | 7 => some (some .budget)
  | 8 => some (some .value)
  | 9 => some (some .auth)
  | _ => none

namespace ErrorValue

/-- An error value. -/
def reader : Reader ErrorValue := Reader.nested do
  match ← Reader.choice ErrorOrigin.ofNumber? with
  | none => return .contract (← Reader.word)
  | some origin => return .host origin (← Reader.choice ErrorCode.ofNumber?)

/-- The binary form of an error value. -/
def write : ErrorValue → Bytes
  | .contract number => Bytes.ofWord 0 ++ Bytes.ofWord number
  | .host origin code => Bytes.ofWord origin.number ++ Bytes.ofWord code.number

end ErrorValue

namespace Address

/-- Takes a discriminant that can only be zero. -/
def onlyKind : Reader Unit := Reader.choice fun n => if n = 0 then some () else none

/-- An address. -/
def reader : Reader Address := Reader.nested do
  match (← Reader.choice some).toNat with
  | 0 => onlyKind; return .account (← Hash.reader)
  | 1 => return .contract (← Hash.reader)
  | 2 => return .muxedAccount (← Reader.long) (← Hash.reader)
  | 3 => onlyKind; return .claimableBalance (← Hash.reader)
  | 4 => return .liquidityPool (← Hash.reader)
  | _ => Reader.fail .invalid

/-- The binary form of an address. -/
def write : Address → Bytes
  | .account key => Bytes.ofWord 0 ++ Bytes.ofWord 0 ++ key.bytes
  | .contract id => Bytes.ofWord 1 ++ id.bytes
  | .muxedAccount id key => Bytes.ofWord 2 ++ Bytes.ofLong id ++ key.bytes
  | .claimableBalance id => Bytes.ofWord 3 ++ Bytes.ofWord 0 ++ id.bytes
  | .liquidityPool id => Bytes.ofWord 4 ++ id.bytes

end Address

namespace Executable

/-- The code of an instance. -/
def reader : Reader Executable := Reader.nested do
  match (← Reader.choice some).toNat with
  | 0 => return .wasm (← Hash.reader)
  | 1 => return .asset
  | _ => Reader.fail .invalid

/-- The binary form of the code of an instance. -/
def write : Executable → Bytes
  | .wasm hash => Bytes.ofWord 0 ++ hash.bytes
  | .asset => Bytes.ofWord 1

end Executable

namespace Value

/-- The longest symbol, in bytes. -/
def maxSymbol : Nat := 32

/-- An entry of a map, by the reader of its key and its value. -/
def entryReader (part : Reader Value) : Reader (Value × Value) := Reader.nested do
  return (← part, ← part)

/-- A value nested at most `bound` deep. -/
def reader : (bound : Nat) → Reader Value
  | 0 => Reader.fail .tooDeep
  | bound + 1 => Reader.nested do
      match (← Reader.choice some).toNat with
      | 0 => return .bool (← Reader.flag)
      | 1 => return .void
      | 2 => return .error (← ErrorValue.reader)
      | 3 => return .u32 (← Reader.word)
      | 4 => return .i32 (← Reader.signedWord)
      | 5 => return .u64 (← Reader.long)
      | 6 => return .i64 (← Reader.signedLong)
      | 7 => return .timepoint (← Reader.long)
      | 8 => return .duration (← Reader.long)
      | 9 => return .u128 ⟨← Reader.long, ← Reader.long⟩
      | 10 => return .i128 ⟨← Reader.signedLong, ← Reader.long⟩
      | 11 => return .u256 ⟨← Reader.long, ← Reader.long, ← Reader.long, ← Reader.long⟩
      | 12 => return .i256 ⟨← Reader.signedLong, ← Reader.long, ← Reader.long, ← Reader.long⟩
      | 13 => return .bytes (← Reader.blob Reader.unbounded)
      | 14 => return .string (← Reader.blob Reader.unbounded)
      | 15 => return .symbol (← Reader.blob maxSymbol)
      | 16 => return .vec (← Reader.optional (Reader.list Reader.unbounded (reader bound)))
      | 17 =>
          return .map (← Reader.optional
            (Reader.list Reader.unbounded (entryReader (reader bound))))
      | 18 => return .address (← Address.reader)
      | 19 =>
          let executable ← Executable.reader
          let storage ← Reader.optional
            (Reader.list Reader.unbounded (entryReader (reader bound)))
          return .contractInstance executable storage
      | 20 => return .ledgerKeyInstance
      | 21 => return .ledgerKeyNonce (← Reader.signedLong)
      | _ => Reader.fail .invalid

mutual

/-- The binary form of a value. -/
def write : Value → Bytes
  | .bool b => Bytes.ofWord 0 ++ flag b
  | .void => Bytes.ofWord 1
  | .error e => Bytes.ofWord 2 ++ e.write
  | .u32 n => Bytes.ofWord 3 ++ Bytes.ofWord n
  | .i32 n => Bytes.ofWord 4 ++ Bytes.ofWord n.toUInt32
  | .u64 n => Bytes.ofWord 5 ++ Bytes.ofLong n
  | .i64 n => Bytes.ofWord 6 ++ Bytes.ofLong n.toUInt64
  | .timepoint t => Bytes.ofWord 7 ++ Bytes.ofLong t
  | .duration d => Bytes.ofWord 8 ++ Bytes.ofLong d
  | .u128 n => Bytes.ofWord 9 ++ Bytes.ofLong n.hi ++ Bytes.ofLong n.lo
  | .i128 n => Bytes.ofWord 10 ++ Bytes.ofLong n.hi.toUInt64 ++ Bytes.ofLong n.lo
  | .u256 n =>
      Bytes.ofWord 11 ++ Bytes.ofLong n.hiHi ++ Bytes.ofLong n.hiLo ++ Bytes.ofLong n.loHi ++
        Bytes.ofLong n.loLo
  | .i256 n =>
      Bytes.ofWord 12 ++ Bytes.ofLong n.hiHi.toUInt64 ++ Bytes.ofLong n.hiLo ++
        Bytes.ofLong n.loHi ++ Bytes.ofLong n.loLo
  | .bytes bs => Bytes.ofWord 13 ++ blob bs
  | .string bs => Bytes.ofWord 14 ++ blob bs
  | .symbol bs => Bytes.ofWord 15 ++ blob bs
  | .vec none => Bytes.ofWord 16 ++ Bytes.ofWord 0
  | .vec (some items) =>
      Bytes.ofWord 16 ++ Bytes.ofWord 1 ++ Bytes.ofWord (UInt32.ofNat items.length) ++
        writeItems items
  | .map none => Bytes.ofWord 17 ++ Bytes.ofWord 0
  | .map (some entries) =>
      Bytes.ofWord 17 ++ Bytes.ofWord 1 ++ Bytes.ofWord (UInt32.ofNat entries.length) ++
        writeEntries entries
  | .address a => Bytes.ofWord 18 ++ a.write
  | .contractInstance executable none =>
      Bytes.ofWord 19 ++ executable.write ++ Bytes.ofWord 0
  | .contractInstance executable (some entries) =>
      Bytes.ofWord 19 ++ executable.write ++ Bytes.ofWord 1 ++
        Bytes.ofWord (UInt32.ofNat entries.length) ++ writeEntries entries
  | .ledgerKeyInstance => Bytes.ofWord 20
  | .ledgerKeyNonce nonce => Bytes.ofWord 21 ++ Bytes.ofLong nonce.toUInt64

/-- The binary forms of values, one after the other. -/
def writeItems : List Value → Bytes
  | [] => []
  | item :: items => item.write ++ writeItems items

/-- The binary forms of entries, each key in front of its value. -/
def writeEntries : List (Value × Value) → Bytes
  | [] => []
  | (key, value) :: entries => key.write ++ value.write ++ writeEntries entries

end

/-- Reads a value from base64 text. -/
def ofText (text : String) : Except Fault Value := Reader.runText reader text

/-- The base64 text of a value. -/
def toText (value : Value) : String := Base64.encode value.write

end Value

end ContractEvents
