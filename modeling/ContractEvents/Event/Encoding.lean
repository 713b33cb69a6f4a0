/-
Module: ContractEvents.Event.Encoding
Purpose: Event descriptors as JSON.
Main exports: EventDescriptor.toJson, EventDescriptor.ofJson, EventField.toJson, EventField.ofJson
-/
import ContractEvents.Event.Descriptor
import ContractEvents.Types.Encoding

namespace ContractEvents

namespace FieldLocation

/-- The name of a location in JSON. -/
def jsonName : FieldLocation → String
  | .topicList => "topic_list"
  | .payload => "payload"

/-- The location of a name. -/
def ofName? : String → Option FieldLocation
  | "topic_list" => some .topicList
  | "payload" => some .payload
  | _ => none

/-- The JSON of a location. -/
def toJson (location : FieldLocation) : Json := .string location.jsonName

/-- Reads a location. -/
def ofJson : Json → Except Json.Mismatch FieldLocation := Json.choice "FieldLocation" ofName?

end FieldLocation

namespace PayloadShape

/-- The name of a shape in JSON. -/
def jsonName : PayloadShape → String
  | .map => "map"
  | .vector => "vector"
  | .singleValue => "single_value"

/-- The shape of a name. -/
def ofName? : String → Option PayloadShape
  | "map" => some .map
  | "vector" => some .vector
  | "single_value" => some .singleValue
  | _ => none

/-- The JSON of a shape. -/
def toJson (shape : PayloadShape) : Json := .string shape.jsonName

/-- Reads a shape. -/
def ofJson : Json → Except Json.Mismatch PayloadShape := Json.choice "PayloadShape" ofName?

end PayloadShape

namespace EventField

/-- The JSON of a field; a field without a doc has no such member. -/
def toJson (field : EventField) : Json :=
  Json.ofMembers
    ([("name", .string field.name), ("type", field.type.toJson),
      ("location", field.location.toJson)] ++
      (field.doc.map fun doc => ("doc", Json.string doc)).toList)

/-- Reads a field. -/
def ofJson : Json → Except Json.Mismatch EventField :=
  Json.record "EventField" ["name", "type", "location", "doc"] fun fields => do
    let name ← fields.required "name" Json.toText
    let type ← fields.required "type" WireType.ofJson
    let location ← fields.required "location" FieldLocation.ofJson
    let doc ← fields.optional "doc" Json.toText
    return { name, type, location, doc }

end EventField

namespace EventDescriptor

/-- The JSON of a descriptor. -/
def toJson (descriptor : EventDescriptor) : Json :=
  Json.ofMembers
    [("name", .string descriptor.name),
      ("prefix_topics", .array (descriptor.prefixTopics.map .string)),
      ("fields", .array (descriptor.fields.map EventField.toJson)),
      ("payload_shape", descriptor.payloadShape.toJson)]

/-- Reads a descriptor. -/
def ofJson : Json → Except Json.Mismatch EventDescriptor :=
  Json.record "EventDescriptor" ["name", "prefix_topics", "fields", "payload_shape"]
    fun fields => do
      let name ← fields.required "name" Json.toText
      let prefixTopics ← fields.required "prefix_topics" (Json.listOf Json.toText)
      let declared ← fields.required "fields" (Json.listOf EventField.ofJson)
      let payloadShape ← fields.required "payload_shape" PayloadShape.ofJson
      return { name, prefixTopics, fields := declared, payloadShape }

end EventDescriptor

end ContractEvents
