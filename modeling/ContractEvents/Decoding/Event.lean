/-
Module: ContractEvents.Decoding.Event
Purpose: Decoded events, whose fields are decoded when they are first read.
Main exports: FieldLayout, DecodedEvent, DecodedEvent.get, DecodedEvent.toJson
-/
import ContractEvents.Decoding.Error
import ContractEvents.Value.Shown

namespace ContractEvents

/-!
A decoded event holds the raw value of every field.  A field is decoded when it is first read, and
its value is kept if the decoder gives one that the field's native type accepts; a failure is not
kept, so the next read tries again.  A repeated name always means the first field of that name.
-/

/-- Which slot, counted in declaration order, a name leads to. -/
abbrev SlotIndex := List (String × Nat)

/-- Adds a name, unless it has a slot already. -/
def SlotIndex.insertIfNew (index : SlotIndex) (name : String) (slot : Nat) : SlotIndex :=
  if (index.lookup name).isSome then index else index ++ [(name, slot)]

/-- What all events of one descriptor share: the names and native types of the fields by slot, and
the slot of each name. -/
structure FieldLayout where
  event : String
  names : List String
  types : List NativeType
  index : SlotIndex
deriving Repr, Inhabited

namespace FieldLayout

/-- The slot of a name. -/
def slot? (layout : FieldLayout) (name : String) : Option Nat := layout.index.lookup name

/-- The native type of a name. -/
def nativeType? (layout : FieldLayout) (name : String) : Option NativeType :=
  (layout.slot? name).bind fun slot => layout.types[slot]?

end FieldLayout

/-- The raw value of a field, and its decoded value once it has been read. -/
structure FieldSlot where
  raw : Value
  cached : Option NativeValue
deriving Inhabited

/-- An event that passed validation. -/
structure DecodedEvent where
  layout : FieldLayout
  slots : List FieldSlot
deriving Inhabited

/-- Reading fields of an event changes its cache, and the state of the value decoder. -/
abbrev FieldReader (σ : Type) := ExceptT FieldError (StateT DecodedEvent (StateM σ))

namespace DecodedEvent

/-- The event that binds raw values, none of them decoded. -/
def ofRaw (layout : FieldLayout) (raw : List Value) : DecodedEvent :=
  ⟨layout, raw.map fun value => ⟨value, none⟩⟩

/-- The name of the event. -/
def name (event : DecodedEvent) : String := event.layout.event

/-- The field names in declaration order. -/
def fieldNames (event : DecodedEvent) : List String := event.layout.names

/-- The native type of a field. -/
def nativeType? (event : DecodedEvent) (field : String) : Option NativeType :=
  event.layout.nativeType? field

/-- The slot of a field. -/
def slot? (event : DecodedEvent) (field : String) : Option FieldSlot :=
  (event.layout.slot? field).bind fun slot => event.slots[slot]?

/-- The raw value of a field. -/
def raw? (event : DecodedEvent) (field : String) : Option Value :=
  (event.slot? field).map (·.raw)

/-- Has the field been read? -/
def isMaterialized (event : DecodedEvent) (field : String) : Bool :=
  (event.slot? field).any (·.cached.isSome)

/-- Keeps the decoded value of a slot. -/
def store (event : DecodedEvent) (slot : Nat) (value : NativeValue) : DecodedEvent :=
  { event with slots := event.slots.modify slot fun s => { s with cached := some value } }

/-- The native value of a field, decoded on first access. -/
def get {σ : Type} (decoder : ValueDecoder σ) (field : String) : FieldReader σ NativeValue := do
  let event ← getThe DecodedEvent
  let some slot := event.layout.slot? field | throw (.unknownField event.name field)
  let some held := event.slots[slot]? | throw (.unknownField event.name field)
  let some expected := event.layout.types[slot]? | throw (.unknownField event.name field)
  match held.cached with
  | some value => return value
  | none =>
      match ← (decoder held.raw : StateM σ _) with
      | .error source => throw (.decode field source)
      | .ok value =>
          if expected.accepts value then
            set (event.store slot value)
            return value
          else throw (.typeMismatch field expected value.kind)

/-- The members of a list of fields, read in order up to the first that fails. -/
def membersOf {σ : Type} (decoder : ValueDecoder σ) :
    List String → FieldReader σ (List (String × Json))
  | [] => return []
  | field :: fields => do
      let value ← get decoder field
      let others ← membersOf decoder fields
      return (field, value.toJson) :: others

/-- All fields as an object. -/
def toJson {σ : Type} (decoder : ValueDecoder σ) : FieldReader σ Json := do
  let event ← getThe DecodedEvent
  return Json.ofMembers (← membersOf decoder event.fieldNames)

/-- The fields in diagnostic notation: the decoded value of a field that has been read, the raw
value of any other. -/
def shown (event : DecodedEvent) : String :=
  Shown.entries ((event.fieldNames.zip event.slots).map fun (name, slot) =>
    (Text.quoted name, (slot.cached.map NativeValue.shown).getD slot.raw.shown))

end DecodedEvent

end ContractEvents
