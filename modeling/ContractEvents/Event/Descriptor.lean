/-
Module: ContractEvents.Event.Descriptor
Purpose: What a contract declares about an event.
Main exports: EventDescriptor, EventField, FieldLocation, PayloadShape
-/
import ContractEvents.Types.Native

namespace ContractEvents

/-- Where the value of a field stands in an event. -/
inductive FieldLocation where
  /-- Among the topics, behind the prefix literals. -/
  | topicList
  /-- Inside the payload. -/
  | payload
deriving DecidableEq, Repr, Inhabited

/-- How the payload of an event holds the payload fields. -/
inductive PayloadShape where
  /-- A map whose keys are the field names. -/
  | map
  /-- A vector in declaration order. -/
  | vector
  /-- The payload is the value of the only payload field. -/
  | singleValue
deriving DecidableEq, Repr, Inhabited

/-- The name of a shape, as errors report it. -/
def PayloadShape.text : PayloadShape → String
  | .map => "Map"
  | .vector => "Vec"
  | .singleValue => "SingleValue"

/-- A declared field. -/
structure EventField where
  name : String
  type : WireType
  location : FieldLocation
  doc : Option String := none
deriving Repr, Inhabited

/-- A declared event: the literals that its topics start with, and its fields in order. -/
structure EventDescriptor where
  name : String
  prefixTopics : List String
  fields : List EventField
  payloadShape : PayloadShape
deriving Repr, Inhabited

namespace EventDescriptor

/-- The fields among the topics, in declaration order. -/
def topicFields (descriptor : EventDescriptor) : List EventField :=
  descriptor.fields.filter fun field => field.location = .topicList

/-- The fields in the payload, in declaration order. -/
def payloadFields (descriptor : EventDescriptor) : List EventField :=
  descriptor.fields.filter fun field => field.location = .payload

/-- How many topics a record of the event has at least. -/
def expectedTopicCount (descriptor : EventDescriptor) : Nat :=
  descriptor.prefixTopics.length + descriptor.topicFields.length

/-- The first field of a name. -/
def field? (descriptor : EventDescriptor) (name : String) : Option EventField :=
  descriptor.fields.find? fun field => field.name == name

/-- The native type of every field, in declaration order. -/
def typeTable (descriptor : EventDescriptor) : List (String × NativeType) :=
  descriptor.fields.map fun field => (field.name, mapType field.type)

end EventDescriptor

/-! Diagnostic notation. -/

/-- A location in diagnostic notation. -/
def FieldLocation.shown : FieldLocation → String
  | .topicList => "TopicList"
  | .payload => "Payload"

/-- A shape in diagnostic notation. -/
def PayloadShape.shown : PayloadShape → String
  | .map => "Map"
  | .vector => "Vector"
  | .singleValue => "SingleValue"

/-- A field in diagnostic notation. -/
def EventField.shown (field : EventField) : String :=
  Shown.fields "EventField"
    [("name", Text.quoted field.name), ("type_", field.type.shown),
      ("location", field.location.shown), ("doc", Shown.optional (field.doc.map Text.quoted))]

/-- A descriptor in diagnostic notation. -/
def EventDescriptor.shown (descriptor : EventDescriptor) : String :=
  Shown.fields "EventDescriptor"
    [("name", Text.quoted descriptor.name),
      ("prefix_topics", Shown.list (descriptor.prefixTopics.map Text.quoted)),
      ("fields", Shown.list (descriptor.fields.map EventField.shown)),
      ("payload_shape", descriptor.payloadShape.shown)]

end ContractEvents
