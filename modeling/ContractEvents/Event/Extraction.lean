/-
Module: ContractEvents.Event.Extraction
Purpose: The event descriptors that an interface listing declares.
Main exports: WireType.ofSpec, EventDescriptor.ofSpec, extractEvents
-/
import ContractEvents.Event.Descriptor
import ContractEvents.Spec.Basic
import ContractEvents.Text.Escaped

namespace ContractEvents

/-!
Only event entries are kept, and nothing about them is checked: a descriptor that fits no record
shows when a record is decoded with it.  Names and texts are taken in their escaped spelling.
-/

mutual

/-- The wire type of a declared type.  A result counts as unknown whatever it holds. -/
def WireType.ofSpec : SpecType → WireType
  | .bool => .bool
  | .i32 => .i32
  | .u32 => .u32
  | .i64 => .i64
  | .u64 => .u64
  | .timepoint => .timepoint
  | .duration => .duration
  | .i128 => .i128
  | .u128 => .u128
  | .i256 => .i256
  | .u256 => .u256
  | .address => .address
  | .muxedAddress => .muxedAddress
  | .string => .string
  | .symbol => .symbol
  | .vec item => .vec (WireType.ofSpec item)
  | .tuple items => .tuple (WireType.ofSpecs items)
  | .map key value => .map (WireType.ofSpec key) (WireType.ofSpec value)
  | .option inner => .option (WireType.ofSpec inner)
  | .val => .unknown "Val"
  | .void => .unknown "Void"
  | .error => .unknown "Error"
  | .bytes => .unknown "Bytes"
  | .bytesN length => .unknown ("BytesN(" ++ toString length.toNat ++ ")")
  | .result .. => .unknown "Result"
  | .udt name => .unknown ("Udt(" ++ Escaped.encode name ++ ")")

/-- The wire types of a list of declared types. -/
def WireType.ofSpecs : List SpecType → List WireType
  | [] => []
  | item :: items => WireType.ofSpec item :: WireType.ofSpecs items

end

/-- The location of a declared one. -/
def FieldLocation.ofSpec : SpecLocation → FieldLocation
  | .topicList => .topicList
  | .data => .payload

/-- The shape that a data format leads to. -/
def PayloadShape.ofSpec : SpecDataFormat → PayloadShape
  | .map => .map
  | .vec => .vector
  | .singleValue => .singleValue

/-- The field of a parameter; an empty doc is no doc. -/
def EventField.ofSpec (param : SpecParam) : EventField where
  name := Escaped.encode param.name
  type := WireType.ofSpec param.type
  location := FieldLocation.ofSpec param.location
  doc := if param.doc.isEmpty then none else some (Escaped.encode param.doc)

/-- The descriptor of a declared event. -/
def EventDescriptor.ofSpec (event : SpecEvent) : EventDescriptor where
  name := Escaped.encode event.name
  prefixTopics := event.prefixTopics.map Escaped.encode
  fields := event.params.map EventField.ofSpec
  payloadShape := PayloadShape.ofSpec event.dataFormat

/-- The event of an event entry. -/
def SpecEntry.event? : SpecEntry → Option SpecEvent
  | .event e => some e
  | _ => none

/-- One descriptor for each event entry, in listing order. -/
def extractEvents (entries : List SpecEntry) : List EventDescriptor :=
  entries.filterMap fun entry => entry.event?.map EventDescriptor.ofSpec

end ContractEvents
