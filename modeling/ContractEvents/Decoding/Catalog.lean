/-
Module: ContractEvents.Decoding.Catalog
Purpose: All events of a contract, and the one that a record belongs to.
Main exports: EventCatalog, EventCatalog.find, EventCatalog.decode, EventCatalog.decodeAs
-/
import ContractEvents.Decoding.EventDecoder
import ContractEvents.Event.Extraction
import ContractEvents.Listing.Loader

namespace ContractEvents

/-- The decoders of the events that a contract declares, in declaration order. -/
structure EventCatalog where
  decoders : List EventDecoder
deriving Repr, Inhabited

/-- Routing may have no answer, and changes the state of the value decoder. -/
abbrev Routing (σ : Type) := ExceptT CatalogError (StateM σ)

namespace EventCatalog

/-- The catalog of a list of descriptors. -/
def ofDescriptors (descriptors : List EventDescriptor) : EventCatalog :=
  ⟨descriptors.map EventDecoder.compile⟩

/-- The catalog of the events of a listing. -/
def ofListing (listing : Listing) : EventCatalog := ofDescriptors (extractEvents listing.entries)

/-- The event names in order. -/
def names (catalog : EventCatalog) : List String := catalog.decoders.map EventDecoder.name

/-- The first decoder of a name. -/
def get? (catalog : EventCatalog) (name : String) : Option EventDecoder :=
  catalog.decoders.find? fun decoder => decoder.name == name

/-- The first decoder with the longest prefix. -/
def longestPrefix? : List EventDecoder → Option EventDecoder
  | [] => none
  | decoder :: decoders =>
      match longestPrefix? decoders with
      | none => some decoder
      | some other =>
          if decoder.descriptor.prefixTopics.length < other.descriptor.prefixTopics.length then
            some other
          else some decoder

variable {σ : Type}

/-- The decoders that a record matches, in order. -/
def matching (values : ValueDecoder σ) (record : EventRecord) :
    List EventDecoder → StateM σ (List EventDecoder)
  | [] => return []
  | decoder :: decoders => do
      let found ← decoder.matchesRecord values record
      let others ← matching values record decoders
      return if found then decoder :: others else others

/-- The decoder that a record belongs to: of those that it matches, the one with the longest prefix,
and of several such the first declared. -/
def find (catalog : EventCatalog) (values : ValueDecoder σ) (record : EventRecord) :
    StateM σ (Option EventDecoder) := do
  return longestPrefix? (← matching values record catalog.decoders)

/-- How the first topic of a record reads: its plain text, its tag if it cannot be decoded. -/
def firstTopicText (values : ValueDecoder σ) : List Value → StateM σ String
  | [] => return "none"
  | topic :: _ => do
      match ← values topic with
      | .ok native => return native.text
      | .error _ => return topic.tag

/-- Decodes a record with a decoder, whose event a rejection is reported under. -/
def decodeWith (decoder : EventDecoder) (event : String) (values : ValueDecoder σ)
    (record : EventRecord) : Routing σ DecodedEvent := do
  match ← ((decoder.decode values record).run : StateM σ _) with
  | .ok decoded => return decoded
  | .error source => throw (.decode event source)

/-- Decodes a record as the event it belongs to. -/
def decode (catalog : EventCatalog) (values : ValueDecoder σ) (record : EventRecord) :
    Routing σ DecodedEvent := do
  match ← (catalog.find values record : StateM σ _) with
  | some decoder => decodeWith decoder decoder.name values record
  | none =>
      let first ← (firstTopicText values record.topics : StateM σ _)
      throw (.noMatchingEvent record.topics.length first)

/-- Decodes a record as the event of a name. -/
def decodeAs (catalog : EventCatalog) (name : String) (values : ValueDecoder σ)
    (record : EventRecord) : Routing σ DecodedEvent :=
  match catalog.get? name with
  | some decoder => decodeWith decoder name values record
  | none => throw (.unknownEvent name)

/-- The catalog in diagnostic notation. -/
def shown (catalog : EventCatalog) : String :=
  Shown.fields "EventCatalog" [("decoders", Shown.list (catalog.decoders.map EventDecoder.shown))]

end EventCatalog

end ContractEvents
