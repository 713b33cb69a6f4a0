/-
Module: ContractEvents.Event.Record
Purpose: Emitted events: the raw record, and the two forms it is read from.
Main exports: EventRecord, ContractEvent, RpcEvent, RecordError, EventRecord.ofContractEventText,
  EventRecord.ofRpcEvent
-/
import ContractEvents.Json.Decoder
import ContractEvents.Report
import ContractEvents.Text.Blank
import ContractEvents.Value.Codec

namespace ContractEvents

open Xdr

/-- Topics and payload of an emitted event, not yet decoded. -/
structure EventRecord where
  topics : List Value
  payload : Value
deriving Inhabited

/-- Why no record can be had. -/
inductive RecordError where
  | xdr (fault : Fault)
  /-- A part of an RPC event that is not there. -/
  | missingPart (id part : String)
deriving DecidableEq, Repr, Inhabited

/-- The error in words. -/
def RecordError.message : RecordError → String
  | .xdr fault => "Invalid event XDR: " ++ fault.message
  | .missingPart id part => "RPC event " ++ id ++ " has no " ++ part

/-- What stands behind the message of a fault: the same words once more, if it is the input that
failed and not the values in it. -/
def faultReport (fault : Fault) : Report :=
  .plain fault.message (if fault.isInput then some (.plain fault.message none) else none)

/-- The error with the fault behind it. -/
def RecordError.report : RecordError → Report
  | .xdr fault => .plain (RecordError.xdr fault).message (some (faultReport fault))
  | error => .plain error.message none

/-- Who emitted an event. -/
inductive EventOrigin where
  | system
  | contract
  | diagnostic
deriving DecidableEq, Repr, Inhabited

/-- An event as the ledger stores it. -/
structure ContractEvent where
  contractId : Option Hash
  origin : EventOrigin
  topics : List Value
  data : Value
deriving Inhabited

namespace EventOrigin

/-- The number of an origin. -/
def number : EventOrigin → UInt32
  | .system => 0
  | .contract => 1
  | .diagnostic => 2

/-- The origin of a number. -/
def ofNumber? (n : UInt32) : Option EventOrigin :=
  match n.toNat with
  | 0 => some .system
  | 1 => some .contract
  | 2 => some .diagnostic
  | _ => none

end EventOrigin

namespace ContractEvent

/-- Takes the version of a part of the event; only version zero is known. -/
def version : Reader Unit := Reader.choice fun n => if n = 0 then some () else none

/-- An event whose values are nested at most `bound` deep. -/
def reader (bound : Nat) : Reader ContractEvent := Reader.nested do
  Reader.nested version
  let contractId ← Reader.optional Hash.reader
  let origin ← Reader.choice EventOrigin.ofNumber?
  version
  let topics ← Reader.list Reader.unbounded (Value.reader bound)
  let data ← Value.reader bound
  return { contractId, origin, topics, data }

/-- The binary form of an event. -/
def write (event : ContractEvent) : Bytes :=
  Bytes.ofWord 0 ++ optional Hash.bytes event.contractId ++ Bytes.ofWord event.origin.number ++
    Bytes.ofWord 0 ++ list Value.write event.topics ++ event.data.write

/-- Reads an event from base64 text. -/
def ofText (text : String) : Except Fault ContractEvent := Reader.runText reader text

/-- The base64 text of an event. -/
def toText (event : ContractEvent) : String := Base64.encode event.write

/-- The record of an event. -/
def record (event : ContractEvent) : EventRecord := ⟨event.topics, event.data⟩

end ContractEvent

/-- An event as an RPC server reports it; topics and value are base64 text. -/
structure RpcEvent where
  type : String
  ledger : UInt32
  ledgerClosedAt : String
  contractId : String
  id : String
  inSuccessfulContractCall : Bool
  txHash : String
  topic : Option (List String)
  value : Option String
deriving DecidableEq, Repr, Inhabited

namespace RpcEvent

/-- The members of an RPC event in order. -/
def memberNames : List String :=
  ["type", "ledger", "ledgerClosedAt", "contractId", "id", "inSuccessfulContractCall", "txHash",
    "topic", "value"]

/-- Does a member hold a value of its type? -/
def checkMember (name : String) (held : Json) : Except Json.Mismatch Unit :=
  match name with
  | "ledger" => discard (Json.toWord held)
  | "inSuccessfulContractCall" => discard (Json.toBool held)
  | "topic" => discard (Json.optional (Json.listOf Json.toText) held)
  | "value" => discard (Json.optional Json.toText held)
  | _ => discard (Json.toText held)

/-- Reads an RPC event.  Members of a wrong type are reported in the order in which they stand, and
before any that is missing. -/
def ofJson : Json → Except Json.Mismatch RpcEvent :=
  Json.record "RpcEvent" memberNames fun fields => do
    fields.members.forM fun (name, held) => checkMember name held
    let type ← fields.required "type" Json.toText
    let ledger ← fields.required "ledger" Json.toWord
    let ledgerClosedAt ← fields.required "ledgerClosedAt" Json.toText
    let contractId ← fields.required "contractId" Json.toText
    let id ← fields.required "id" Json.toText
    let inSuccessfulContractCall ←
      match fields.members.lookup "inSuccessfulContractCall" with
      | some held => Json.toBool held
      | none => pure false
    let txHash ←
      match fields.members.lookup "txHash" with
      | some held => Json.toText held
      | none => pure ""
    let topic ← fields.optional "topic" (Json.listOf Json.toText)
    let value ← fields.optional "value" Json.toText
    return {
      type, ledger, ledgerClosedAt, contractId, id, inSuccessfulContractCall, txHash, topic, value }

/-- The JSON of an RPC event; an absent topic list or value has no member. -/
def toJson (event : RpcEvent) : Json :=
  Json.ofMembers
    ([("type", .string event.type), ("ledger", .int event.ledger.toNat),
      ("ledgerClosedAt", .string event.ledgerClosedAt), ("contractId", .string event.contractId),
      ("id", .string event.id),
      ("inSuccessfulContractCall", .bool event.inSuccessfulContractCall),
      ("txHash", .string event.txHash)] ++
      (event.topic.map fun topic => ("topic", Json.array (topic.map .string))).toList ++
      (event.value.map fun value => ("value", Json.string value)).toList)

end RpcEvent

namespace EventRecord

/-- Reads a value from base64 text, as a part of a record. -/
def part (text : String) : Except RecordError Value := (Value.ofText text).mapError .xdr

/-- The record of a ledger event in base64, with any blanks around it. -/
def ofContractEventText (text : String) : Except RecordError EventRecord :=
  match ContractEvent.ofText (Text.trimBlanks text) with
  | .ok event => .ok event.record
  | .error fault => .error (.xdr fault)

/-- The record of an RPC event.  The topic list is looked at, and each topic read, before the
value. -/
def ofRpcEvent (event : RpcEvent) : Except RecordError EventRecord := do
  let some topicTexts := event.topic | throw (.missingPart event.id "topic list")
  let topics ← topicTexts.mapM part
  let some valueText := event.value | throw (.missingPart event.id "value")
  return ⟨topics, ← part valueText⟩

end EventRecord

end ContractEvents
