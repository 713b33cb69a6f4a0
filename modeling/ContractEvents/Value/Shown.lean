/-
Module: ContractEvents.Value.Shown
Purpose: Wire values in diagnostic notation.
Main exports: Value.shown
-/
import ContractEvents.Text.Escaped
import ContractEvents.Text.Shown
import ContractEvents.Value.Basic

namespace ContractEvents

/-- A hash in diagnostic notation. -/
def Hash.shown (hash : Hash) : String := Shown.call "Hash" [Bytes.toHex hash.bytes]

/-- A key in diagnostic notation. -/
def Hash.shownAsKey (hash : Hash) : String := Shown.call "Uint256" [Bytes.toHex hash.bytes]

/-- An error code in diagnostic notation. -/
def ErrorCode.shown : ErrorCode → String
  | .arithDomain => "ArithDomain"
  | .indexBounds => "IndexBounds"
  | .invalidInput => "InvalidInput"
  | .missingValue => "MissingValue"
  | .existingValue => "ExistingValue"
  | .exceededLimit => "ExceededLimit"
  | .invalidAction => "InvalidAction"
  | .internalError => "InternalError"
  | .unexpectedType => "UnexpectedType"
  | .unexpectedSize => "UnexpectedSize"

/-- An origin in diagnostic notation. -/
def ErrorOrigin.shown : ErrorOrigin → String
  | .wasmVm => "WasmVm"
  | .context => "Context"
  | .storage => "Storage"
  | .object => "Object"
  | .crypto => "Crypto"
  | .events => "Events"
  | .budget => "Budget"
  | .value => "Value"
  | .auth => "Auth"

/-- An error value in diagnostic notation. -/
def ErrorValue.shown : ErrorValue → String
  | .contract number => Shown.call "Contract" [toString number.toNat]
  | .host origin code => Shown.call origin.shown [code.shown]

/-- An address in diagnostic notation. -/
def Address.shown : Address → String
  | .account key =>
      Shown.call "Account"
        [Shown.call "AccountId" [Shown.call "PublicKeyTypeEd25519" [key.shownAsKey]]]
  | .contract id => Shown.call "Contract" [Shown.call "ContractId" [id.shown]]
  | .muxedAccount id key =>
      Shown.call "MuxedAccount"
        [Shown.fields "MuxedEd25519Account"
          [("id", toString id.toNat), ("ed25519", key.shownAsKey)]]
  | .claimableBalance id =>
      Shown.call "ClaimableBalance" [Shown.call "ClaimableBalanceIdTypeV0" [id.shown]]
  | .liquidityPool id => Shown.call "LiquidityPool" [Shown.call "PoolId" [id.shown]]

/-- The code of an instance in diagnostic notation. -/
def Executable.shown : Executable → String
  | .wasm hash => Shown.call "Wasm" [hash.shown]
  | .asset => "StellarAsset"

namespace Value

/-- A byte string by its escaped text, without quotes. -/
def shownText (name : String) (bs : Bytes) : String :=
  Shown.call name [Shown.call "StringM" [Escaped.encode bs]]

mutual

/-- A value in diagnostic notation: one line, each constructor by name. -/
def shown : Value → String
  | .bool b => Shown.call "Bool" [toString b]
  | .void => "Void"
  | .error e => Shown.call "Error" [e.shown]
  | .u32 n => Shown.call "U32" [toString n.toNat]
  | .i32 n => Shown.call "I32" [toString n.toInt]
  | .u64 n => Shown.call "U64" [toString n.toNat]
  | .i64 n => Shown.call "I64" [toString n.toInt]
  | .timepoint t => Shown.call "Timepoint" [Shown.call "TimePoint" [toString t.toNat]]
  | .duration d => Shown.call "Duration" [Shown.call "Duration" [toString d.toNat]]
  | .u128 n =>
      Shown.call "U128" [Shown.fields "UInt128Parts"
        [("hi", toString n.hi.toNat), ("lo", toString n.lo.toNat)]]
  | .i128 n =>
      Shown.call "I128" [Shown.fields "Int128Parts"
        [("hi", toString n.hi.toInt), ("lo", toString n.lo.toNat)]]
  | .u256 n =>
      Shown.call "U256" [Shown.fields "UInt256Parts"
        [("hi_hi", toString n.hiHi.toNat), ("hi_lo", toString n.hiLo.toNat),
          ("lo_hi", toString n.loHi.toNat), ("lo_lo", toString n.loLo.toNat)]]
  | .i256 n =>
      Shown.call "I256" [Shown.fields "Int256Parts"
        [("hi_hi", toString n.hiHi.toInt), ("hi_lo", toString n.hiLo.toNat),
          ("lo_hi", toString n.loHi.toNat), ("lo_lo", toString n.loLo.toNat)]]
  | .bytes bs =>
      Shown.call "Bytes" [Shown.call "ScBytes" [Shown.call "BytesM" [Bytes.toHex bs]]]
  | .string bs => Shown.call "String" [shownText "ScString" bs]
  | .symbol bs => Shown.call "Symbol" [shownText "ScSymbol" bs]
  | .vec none => Shown.call "Vec" [Shown.optional none]
  | .vec (some items) =>
      Shown.call "Vec" [Shown.optional (some
        (Shown.call "ScVec" [Shown.call "VecM" [Shown.list (shownItems items)]]))]
  | .map none => Shown.call "Map" [Shown.optional none]
  | .map (some entries) =>
      Shown.call "Map" [Shown.optional (some
        (Shown.call "ScMap" [Shown.call "VecM" [Shown.list (shownEntries entries)]]))]
  | .address a => Shown.call "Address" [a.shown]
  | .contractInstance executable none =>
      Shown.call "ContractInstance" [Shown.fields "ScContractInstance"
        [("executable", executable.shown), ("storage", Shown.optional none)]]
  | .contractInstance executable (some entries) =>
      Shown.call "ContractInstance" [Shown.fields "ScContractInstance"
        [("executable", executable.shown),
          ("storage", Shown.optional (some
            (Shown.call "ScMap" [Shown.call "VecM" [Shown.list (shownEntries entries)]])))]]
  | .ledgerKeyInstance => "LedgerKeyContractInstance"
  | .ledgerKeyNonce nonce =>
      Shown.call "LedgerKeyNonce"
        [Shown.fields "ScNonceKey" [("nonce", toString nonce.toInt)]]

/-- The items of a vector, each in diagnostic notation. -/
def shownItems : List Value → List String
  | [] => []
  | item :: items => item.shown :: shownItems items

/-- The entries of a map, each in diagnostic notation. -/
def shownEntries : List (Value × Value) → List String
  | [] => []
  | (key, value) :: entries =>
      Shown.fields "ScMapEntry" [("key", key.shown), ("val", value.shown)] ::
        shownEntries entries

end

end Value

end ContractEvents
