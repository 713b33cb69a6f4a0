/-
Module: ContractEvents.Decoding.EventDecoder
Purpose: Decoders compiled from descriptors: validating a record and binding its fields.
Main exports: EventDecoder, EventDecoder.compile, EventDecoder.check, EventDecoder.decode
-/
import ContractEvents.Decoding.Event
import ContractEvents.Event.Record
import ContractEvents.Json.Printer

namespace ContractEvents

/-!
A record passes four stages, each of which may reject it: it has topics for the prefix and the topic
fields, each prefix topic decodes to its literal, the payload has the declared shape, and every
field finds its value.  Only prefix topics and, for a map payload, entry keys are decoded on the
way; field values are decoded when they are read.
-/

/-- A descriptor with the slots of its fields worked out. -/
structure EventDecoder where
  descriptor : EventDescriptor
  layout : FieldLayout
  /-- The slots of the topic fields, in order. -/
  topicSlots : List Nat
  /-- The slots of the payload fields, in order. -/
  payloadSlots : List Nat
  /-- The slot of the first payload field of each name. -/
  payloadIndex : SlotIndex
deriving Repr, Inhabited

/-- Decoding may be rejected, and changes the state of the value decoder. -/
abbrev Decoding (σ : Type) := ExceptT EventDecodeError (StateM σ)

namespace EventDecoder

/-- The slots found so far. -/
structure Slots where
  index : SlotIndex
  topic : List Nat
  payload : List Nat
  payloadIndex : SlotIndex
deriving Repr, Inhabited

/-- Takes the field of a slot into account.  A repeated name keeps its first slot. -/
def Slots.add (slots : Slots) (field : EventField) (slot : Nat) : Slots :=
  let index := slots.index.insertIfNew field.name slot
  match field.location with
  | .topicList => { slots with index, topic := slots.topic ++ [slot] }
  | .payload =>
      { slots with
        index
        payload := slots.payload ++ [slot]
        payloadIndex := slots.payloadIndex.insertIfNew field.name slot }

/-- The slots of fields, the first of which has the slot `next`. -/
def Slots.ofFields (slots : Slots) (next : Nat) : List EventField → Slots
  | [] => slots
  | field :: fields => Slots.ofFields (slots.add field next) (next + 1) fields

/-- The decoder of a descriptor. -/
def compile (descriptor : EventDescriptor) : EventDecoder :=
  let slots := Slots.ofFields ⟨[], [], [], []⟩ 0 descriptor.fields
  { descriptor
    layout :=
      { event := descriptor.name
        names := descriptor.fields.map (·.name)
        types := descriptor.fields.map fun field => mapType field.type
        index := slots.index }
    topicSlots := slots.topic
    payloadSlots := slots.payload
    payloadIndex := slots.payloadIndex }

/-- The name of the event. -/
def name (decoder : EventDecoder) : String := decoder.descriptor.name

/-- The native type of a field. -/
def nativeType? (decoder : EventDecoder) (field : String) : Option NativeType :=
  decoder.layout.nativeType? field

/-- The field names with their native types, in declaration order. -/
def fieldTypes (decoder : EventDecoder) : List (String × NativeType) :=
  decoder.layout.names.zip decoder.layout.types

/-- How many topics a record needs. -/
def requiredTopics (decoder : EventDecoder) : Nat :=
  decoder.descriptor.prefixTopics.length + decoder.topicSlots.length

variable {σ : Type}

/-- The first stage: are there enough topics? -/
def checkTopicCount (decoder : EventDecoder) (record : EventRecord) : Decoding σ Unit :=
  if record.topics.length < decoder.requiredTopics then
    throw (.tooFewTopics record.topics.length decoder.requiredTopics)
  else return ()

/-- Compares literals, the first of which belongs to the topic at `index`, with topics.  A topic
that cannot be decoded is reported by its tag. -/
def verifyLiterals (values : ValueDecoder σ) (index : Nat) :
    List (String × Value) → Decoding σ Unit
  | [] => return ()
  | (expected, topic) :: rest => do
      match ← (values topic : StateM σ _) with
      | .ok native =>
          if native.asText? = some expected then verifyLiterals values (index + 1) rest
          else throw (.prefixMismatch index expected native.text)
      | .error _ => throw (.prefixMismatch index expected topic.tag)

/-- The second stage: do the topics start with the literals? -/
def verifyPrefix (decoder : EventDecoder) (values : ValueDecoder σ) (record : EventRecord) :
    Decoding σ Unit :=
  verifyLiterals values 0 (decoder.descriptor.prefixTopics.zip record.topics)

/-- Does a payload have a shape? -/
def hasShape : PayloadShape → Value → Bool
  | .map, .map _ => true
  | .vector, .vec _ => true
  | .singleValue, _ => true
  | _, _ => false

/-- The third stage: does the payload have the declared shape? -/
def verifyPayloadShape (decoder : EventDecoder) (record : EventRecord) : Decoding σ Unit :=
  if hasShape decoder.descriptor.payloadShape record.payload then return ()
  else
    throw (.unexpectedPayloadShape decoder.descriptor.payloadShape record.payload.tag)

/-- The values found so far, by slot. -/
abbrev Bound := List (Option Value)

/-- Binds values to slots, pair by pair. -/
def bindInOrder (bound : Bound) (pairs : List (Value × Nat)) : Bound :=
  pairs.foldl (fun bound (value, slot) => bound.set slot (some value)) bound

/-- Binds a value to a slot that has none. -/
def bindIfFree (bound : Bound) (slot : Nat) (value : Value) : Bound :=
  match bound[slot]? with
  | some none => bound.set slot (some value)
  | _ => bound

/-- The name that a key stands for: the text of a string, the plain text of any other value. -/
def keyName (key : NativeValue) : String := key.asText?.getD key.text

/-- Binds the values of entries to the slots that their keys name.  The first entry of a name wins;
an entry whose key cannot be decoded is skipped. -/
def bindEntries (values : ValueDecoder σ) (index : SlotIndex) (bound : Bound) :
    List (Value × Value) → StateM σ Bound
  | [] => return bound
  | (key, value) :: entries => do
      let bound := match ← values key with
        | .ok native =>
            match index.lookup (keyName native) with
            | some slot => bindIfFree bound slot value
            | none => bound
        | .error _ => bound
      bindEntries values index bound entries

/-- The entries of a map. -/
def entriesOf : Value → List (Value × Value)
  | .map (some entries) => entries
  | _ => []

/-- The items of a vector. -/
def itemsOf : Value → List Value
  | .vec (some items) => items
  | _ => []

/-- Binds the payload fields by the declared shape. -/
def bindPayload (decoder : EventDecoder) (values : ValueDecoder σ) (payload : Value)
    (bound : Bound) : StateM σ Bound :=
  match decoder.descriptor.payloadShape with
  | .map => bindEntries values decoder.payloadIndex bound (entriesOf payload)
  | .vector => return bindInOrder bound ((itemsOf payload).zip decoder.payloadSlots)
  | .singleValue => return bindInOrder bound ([payload].zip decoder.payloadSlots)

/-- The names of the slots without a value. -/
def missingNames (decoder : EventDecoder) (bound : Bound) : List String :=
  ((bound.zip decoder.layout.names).filter fun (value, _) => value.isNone).map (·.2)

/-- The payload as text: its JSON, or its diagnostic notation if it cannot be decoded. -/
def dumpPayload (values : ValueDecoder σ) (payload : Value) : StateM σ String := do
  match ← values payload with
  | .ok native => return native.toJson.pretty
  | .error _ => return payload.shown

/-- The values that the fields of a record are bound to, by slot. -/
def boundFields (decoder : EventDecoder) (values : ValueDecoder σ) (record : EventRecord) :
    StateM σ Bound :=
  let free : Bound := decoder.descriptor.fields.map fun _ => none
  let topics := record.topics.drop decoder.descriptor.prefixTopics.length
  decoder.bindPayload values record.payload (bindInOrder free (topics.zip decoder.topicSlots))

/-- The fourth stage: the raw value of every field, in declaration order. -/
def bindFields (decoder : EventDecoder) (values : ValueDecoder σ) (record : EventRecord) :
    Decoding σ (List Value) := do
  let bound ← (decoder.boundFields values record : StateM σ _)
  let missing := decoder.missingNames bound
  if missing.isEmpty then return bound.filterMap id
  else
    let dump ← (dumpPayload values record.payload : StateM σ _)
    throw (.missingPayloadFields missing dump)

/-- The first two stages. -/
def check (decoder : EventDecoder) (values : ValueDecoder σ) (record : EventRecord) :
    Decoding σ Unit := do
  decoder.checkTopicCount record
  decoder.verifyPrefix values record

/-- Does a record have enough topics and the right prefix? -/
def matchesRecord (decoder : EventDecoder) (values : ValueDecoder σ) (record : EventRecord) :
    StateM σ Bool := do
  return (← (decoder.check values record).run).isOk

/-- Validates a record and binds its fields. -/
def decode (decoder : EventDecoder) (values : ValueDecoder σ) (record : EventRecord) :
    Decoding σ DecodedEvent := do
  decoder.check values record
  decoder.verifyPayloadShape record
  return DecodedEvent.ofRaw decoder.layout (← decoder.bindFields values record)

/-- The decoder in diagnostic notation. -/
def shown (decoder : EventDecoder) : String :=
  Shown.fields "EventDecoder"
    [("descriptor", decoder.descriptor.shown),
      ("types", Shown.list (decoder.layout.types.map NativeType.shown))]

end EventDecoder

end ContractEvents
