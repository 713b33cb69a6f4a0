/-
Module: ContractEvents.Decoding.ValueDecoder
Purpose: Wire values to native values, and the capability that event decoding takes them through.
Main exports: Value.decode, ValueError, ValueDecoder, ValueDecoder.ofFunction
-/
import ContractEvents.Bytes.Strkey
import ContractEvents.Text.Utf8
import ContractEvents.Value.Codec
import ContractEvents.Value.Native

namespace ContractEvents

/-- Why a value has no native form. -/
inductive ValueError where
  /-- A value, or an address in it, of a kind that is not decoded. -/
  | unsupported (tag : String)
  /-- A string or a symbol that is not UTF-8. -/
  | invalidUtf8 (tag : String) (fault : Utf8.Fault)
  /-- A value without a native form that cannot be written as text.  Every value here can, so only a
  decoder of another kind answers so. -/
  | unwritable (tag reason : String)
deriving DecidableEq, Repr, Inhabited

/-- The error in words. -/
def ValueError.message : ValueError → String
  | .unsupported tag => "unsupported value: " ++ tag
  | .invalidUtf8 tag fault => "invalid UTF-8 in " ++ tag ++ ": " ++ fault.message
  | .unwritable tag reason => "failed to encode " ++ tag ++ ": " ++ reason

/-! Wide integers come in 64-bit parts: the digits of one word in two's complement. -/

/-- The integer that the parts spell. -/
def UInt128Parts.toNat (n : UInt128Parts) : Nat :=
  (n.hi.toBitVec ++ n.lo.toBitVec).toNat

/-- The integer that the parts spell. -/
def Int128Parts.toInt (n : Int128Parts) : Int :=
  (n.hi.toBitVec ++ n.lo.toBitVec).toInt

/-- The integer that the parts spell. -/
def UInt256Parts.toNat (n : UInt256Parts) : Nat :=
  (n.hiHi.toBitVec ++ n.hiLo.toBitVec ++ n.loHi.toBitVec ++ n.loLo.toBitVec).toNat

/-- The integer that the parts spell. -/
def Int256Parts.toInt (n : Int256Parts) : Int :=
  (n.hiHi.toBitVec ++ n.hiLo.toBitVec ++ n.loHi.toBitVec ++ n.loLo.toBitVec).toInt

/-- The checked text of an address; only accounts, contracts and muxed accounts have one. -/
def Address.encode : Address → Except ValueError String
  | .account key => .ok (Strkey.render .account key.bytes)
  | .contract id => .ok (Strkey.render .contract id.bytes)
  | .muxedAccount id key => .ok (Strkey.render .muxed (key.bytes ++ Bytes.ofLong id))
  | .claimableBalance _ => .error (.unsupported "Address")
  | .liquidityPool _ => .error (.unsupported "Address")

/-- The text of a string or symbol, whose tag names it in an error. -/
def textOfBytes (tag : String) (bs : Bytes) : Except ValueError String :=
  (Utf8.decode bs).mapError (.invalidUtf8 tag)

namespace Value

mutual

/-- The native form of a value.  The error is that of the first node, in stored order and each key
in front of its value, that has none. -/
def decode : Value → Except ValueError NativeValue
  | .bool b => .ok (.bool b)
  | .void => .ok .void
  | .u32 n => .ok (.number n.toNat)
  | .i32 n => .ok (.number n.toInt)
  | .u64 n => .ok (.bigInt (toString n.toNat))
  | .i64 n => .ok (.bigInt (toString n.toInt))
  | .timepoint t => .ok (.bigInt (toString t.toNat))
  | .duration d => .ok (.bigInt (toString d.toNat))
  | .u128 n => .ok (.bigInt (toString n.toNat))
  | .i128 n => .ok (.bigInt (toString n.toInt))
  | .u256 n => .ok (.bigInt (toString n.toNat))
  | .i256 n => .ok (.bigInt (toString n.toInt))
  | .bytes bs => .ok (.bytes bs)
  | .string bs => .string <$> textOfBytes "String" bs
  | .symbol bs => .string <$> textOfBytes "Symbol" bs
  | .vec none => .ok (.vec [])
  | .vec (some items) => .vec <$> decodeItems items
  | .map none => .ok (.map [])
  | .map (some entries) => .map <$> decodeEntries entries
  | .address a => .address <$> a.encode
  | .error e => .ok (.raw (Value.error e).tag (Value.error e).toText)
  | .contractInstance executable storage =>
      .ok (.raw (contractInstance executable storage).tag
        (contractInstance executable storage).toText)
  | .ledgerKeyInstance => .ok (.raw ledgerKeyInstance.tag ledgerKeyInstance.toText)
  | .ledgerKeyNonce nonce => .ok (.raw (ledgerKeyNonce nonce).tag (ledgerKeyNonce nonce).toText)

/-- The native forms of items in order. -/
def decodeItems : List Value → Except ValueError (List NativeValue)
  | [] => .ok []
  | item :: items => do
      let first ← item.decode
      let others ← decodeItems items
      return first :: others

/-- The native forms of entries in order. -/
def decodeEntries :
    List (Value × Value) → Except ValueError (List (NativeValue × NativeValue))
  | [] => .ok []
  | (key, value) :: entries => do
      let k ← key.decode
      let v ← value.decode
      let others ← decodeEntries entries
      return (k, v) :: others

end

end Value

/-- The capability to decode values.  Its answer may depend on, and change, a state of its own, so
that one that counts, records or fails for a while is a decoder too. -/
abbrev ValueDecoder (σ : Type) := Value → StateM σ (Except ValueError NativeValue)

namespace ValueDecoder

/-- The decoder whose answers depend on the value alone. -/
def ofFunction {σ : Type} (f : Value → Except ValueError NativeValue) : ValueDecoder σ :=
  fun value => pure (f value)

/-- The decoder that gives every value its native form. -/
def native {σ : Type} : ValueDecoder σ := ofFunction Value.decode

/-- The decoder that also records, in order, the values it is given. -/
def recording {σ : Type} (decoder : ValueDecoder σ) : ValueDecoder (σ × List Value) :=
  fun value (state, seen) =>
    let (answer, state) := decoder value state
    (answer, (state, seen ++ [value]))

end ValueDecoder

end ContractEvents
