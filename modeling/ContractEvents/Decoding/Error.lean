/-
Module: ContractEvents.Decoding.Error
Purpose: Why a record is rejected, a field cannot be read, or a catalog has no answer.
Main exports: EventDecodeError, DecodeStage, FieldError, CatalogError
-/
import ContractEvents.Decoding.ValueDecoder
import ContractEvents.Event.Descriptor
import ContractEvents.Report

namespace ContractEvents

/-- The stages of decoding a record, in their order. -/
inductive DecodeStage where
  | topicCount
  | prefixVerify
  | payloadShape
  | fieldBind
deriving DecidableEq, Repr, Inhabited

/-- The name of a stage. -/
def DecodeStage.text : DecodeStage → String
  | .topicCount => "topic_count"
  | .prefixVerify => "prefix_verify"
  | .payloadShape => "payload_shape"
  | .fieldBind => "field_bind"

/-- Why a record is not of an event. -/
inductive EventDecodeError where
  | tooFewTopics (found expected : Nat)
  | prefixMismatch (index : Nat) (expected found : String)
  | unexpectedPayloadShape (expected : PayloadShape) (found : String)
  /-- The fields without a value, in declaration order, and the payload as text. -/
  | missingPayloadFields (names : List String) (payloadDump : String)
deriving DecidableEq, Repr, Inhabited

namespace EventDecodeError

/-- The stage that rejects the record. -/
def stage : EventDecodeError → DecodeStage
  | .tooFewTopics .. => .topicCount
  | .prefixMismatch .. => .prefixVerify
  | .unexpectedPayloadShape .. => .payloadShape
  | .missingPayloadFields .. => .fieldBind

/-- The error in words. -/
def message : EventDecodeError → String
  | .tooFewTopics found expected =>
      s!"invalid event: too few topics ({found}), expected {expected}"
  | .prefixMismatch index expected found =>
      "invalid event: expected \"" ++ expected ++ "\" as topic " ++ toString index ++
        ", found \"" ++ found ++ "\""
  | .unexpectedPayloadShape expected found =>
      "invalid event: expected " ++ expected.text ++ " payload, got " ++ found
  | .missingPayloadFields names payloadDump =>
      "expected to find " ++ ", ".intercalate (names.map fun name => "'" ++ name ++ "'") ++
        " in event payload: " ++ payloadDump

/-- The error as a report without a source. -/
def report (error : EventDecodeError) : Report := .plain error.message none

end EventDecodeError

/-- Why a field of a decoded event cannot be read. -/
inductive FieldError where
  | unknownField (event field : String)
  | decode (field : String) (source : ValueError)
  /-- The value does not have the shape of the field's native type. -/
  | typeMismatch (field : String) (expected : NativeType) (found : String)
deriving Repr, Inhabited

namespace FieldError

/-- The error in words. -/
def message : FieldError → String
  | .unknownField event field => "event " ++ event ++ " has no field '" ++ field ++ "'"
  | .decode field source => "failed to decode field '" ++ field ++ "': " ++ source.message
  | .typeMismatch field expected found =>
      "field '" ++ field ++ "' decoded to " ++ found ++ ", expected " ++ expected.text

/-- The error with the value error behind it. -/
def report : FieldError → Report
  | .decode field source =>
      .plain (FieldError.decode field source).message (some (.plain source.message none))
  | error => .plain error.message none

end FieldError

/-- Why a catalog does not decode a record. -/
inductive CatalogError where
  | noMatchingEvent (topicCount : Nat) (firstTopic : String)
  | unknownEvent (name : String)
  | decode (event : String) (source : EventDecodeError)
deriving DecidableEq, Repr, Inhabited

namespace CatalogError

/-- The error in words. -/
def message : CatalogError → String
  | .noMatchingEvent topicCount firstTopic =>
      "no event matches a record with " ++ toString topicCount ++ " topics (first topic: " ++
        firstTopic ++ ")"
  | .unknownEvent name => "unknown event '" ++ name ++ "'"
  | .decode event source => "failed to decode " ++ event ++ ": " ++ source.message

/-- The error with the rejection behind it. -/
def report : CatalogError → Report
  | .decode event source =>
      .plain (CatalogError.decode event source).message (some source.report)
  | error => .plain error.message none

end CatalogError

end ContractEvents
