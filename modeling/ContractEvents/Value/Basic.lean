/-
Module: ContractEvents.Value.Basic
Purpose: The values that contracts emit, as they stand on the wire.
Main exports: Value, Value.tag, Address, Hash
-/
import ContractEvents.Bytes.Basic

namespace ContractEvents

/-- A byte sequence of exactly 32 bytes: a key or a hash. -/
structure Hash where
  bytes : Bytes
  length_eq : bytes.length = 32
deriving DecidableEq, Repr

instance : Inhabited Hash := ⟨⟨List.replicate 32 0, rfl⟩⟩

/-- The parts of an unsigned 128-bit integer. -/
structure UInt128Parts where
  hi : UInt64
  lo : UInt64
deriving DecidableEq, Repr, Inhabited

/-- The parts of a signed 128-bit integer; the sign is that of the high part. -/
structure Int128Parts where
  hi : Int64
  lo : UInt64
deriving DecidableEq, Repr, Inhabited

/-- The parts of an unsigned 256-bit integer, most significant first. -/
structure UInt256Parts where
  hiHi : UInt64
  hiLo : UInt64
  loHi : UInt64
  loLo : UInt64
deriving DecidableEq, Repr, Inhabited

/-- The parts of a signed 256-bit integer; the sign is that of the highest part. -/
structure Int256Parts where
  hiHi : Int64
  hiLo : UInt64
  loHi : UInt64
  loLo : UInt64
deriving DecidableEq, Repr, Inhabited

/-- What went wrong in the part of the host that an error value names. -/
inductive ErrorCode where
  | arithDomain
  | indexBounds
  | invalidInput
  | missingValue
  | existingValue
  | exceededLimit
  | invalidAction
  | internalError
  | unexpectedType
  | unexpectedSize
deriving DecidableEq, Repr, Inhabited

/-- The part of the host that an error value names. -/
inductive ErrorOrigin where
  | wasmVm
  | context
  | storage
  | object
  | crypto
  | events
  | budget
  | value
  | auth
deriving DecidableEq, Repr, Inhabited

/-- An error value: a contract's own number, or a code from a part of the host. -/
inductive ErrorValue where
  | contract (number : UInt32)
  | host (origin : ErrorOrigin) (code : ErrorCode)
deriving DecidableEq, Repr, Inhabited

/-- What an address points to. -/
inductive Address where
  | account (key : Hash)
  | contract (id : Hash)
  | muxedAccount (id : UInt64) (key : Hash)
  | claimableBalance (id : Hash)
  | liquidityPool (id : Hash)
deriving DecidableEq, Repr, Inhabited

/-- The code of a contract instance. -/
inductive Executable where
  | wasm (hash : Hash)
  | asset
deriving DecidableEq, Repr, Inhabited

/-- A contract value.  Strings and symbols are bytes; a vector or a map may be absent, and a map
keeps its entries in their stored order. -/
inductive Value where
  | bool (b : Bool)
  | void
  | error (e : ErrorValue)
  | u32 (n : UInt32)
  | i32 (n : Int32)
  | u64 (n : UInt64)
  | i64 (n : Int64)
  | timepoint (t : UInt64)
  | duration (d : UInt64)
  | u128 (n : UInt128Parts)
  | i128 (n : Int128Parts)
  | u256 (n : UInt256Parts)
  | i256 (n : Int256Parts)
  | bytes (bs : Bytes)
  | string (bs : Bytes)
  | symbol (bs : Bytes)
  | vec (items : Option (List Value))
  | map (entries : Option (List (Value × Value)))
  | address (a : Address)
  | contractInstance (executable : Executable) (storage : Option (List (Value × Value)))
  | ledgerKeyInstance
  | ledgerKeyNonce (nonce : Int64)
deriving Inhabited

/-- The name of the kind of a value. -/
def Value.tag : Value → String
  | .bool _ => "Bool"
  | .void => "Void"
  | .error _ => "Error"
  | .u32 _ => "U32"
  | .i32 _ => "I32"
  | .u64 _ => "U64"
  | .i64 _ => "I64"
  | .timepoint _ => "Timepoint"
  | .duration _ => "Duration"
  | .u128 _ => "U128"
  | .i128 _ => "I128"
  | .u256 _ => "U256"
  | .i256 _ => "I256"
  | .bytes _ => "Bytes"
  | .string _ => "String"
  | .symbol _ => "Symbol"
  | .vec _ => "Vec"
  | .map _ => "Map"
  | .address _ => "Address"
  | .contractInstance .. => "ContractInstance"
  | .ledgerKeyInstance => "LedgerKeyContractInstance"
  | .ledgerKeyNonce _ => "LedgerKeyNonce"

end ContractEvents
