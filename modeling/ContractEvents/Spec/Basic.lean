/-
Module: ContractEvents.Spec.Basic
Purpose: The interface that a contract publishes: its functions, types and events.
Main exports: SpecType, SpecEntry, SpecEvent
-/
import ContractEvents.Bytes.Basic

namespace ContractEvents

/-! All texts of an interface are byte strings; nothing says that they are UTF-8. -/

/-- A type as an interface declares it. -/
inductive SpecType where
  | val
  | bool
  | void
  | error
  | u32
  | i32
  | u64
  | i64
  | timepoint
  | duration
  | u128
  | i128
  | u256
  | i256
  | bytes
  | string
  | symbol
  | address
  | muxedAddress
  | option (inner : SpecType)
  | result (value failure : SpecType)
  | vec (item : SpecType)
  | map (key value : SpecType)
  | tuple (items : List SpecType)
  | bytesN (length : UInt32)
  | udt (name : Bytes)
deriving Repr, Inhabited

/-- A named type with a doc text: an input of a function or a field of a structure. -/
structure SpecField where
  doc : Bytes
  name : Bytes
  type : SpecType
deriving Repr, Inhabited

/-- A function. -/
structure SpecFunction where
  doc : Bytes
  name : Bytes
  inputs : List SpecField
  outputs : List SpecType
deriving Repr, Inhabited

/-- A structure type. -/
structure SpecStruct where
  doc : Bytes
  lib : Bytes
  name : Bytes
  fields : List SpecField
deriving Repr, Inhabited

/-- A case of a union type. -/
inductive SpecUnionCase where
  | void (doc name : Bytes)
  | tuple (doc name : Bytes) (types : List SpecType)
deriving Repr, Inhabited

/-- A union type. -/
structure SpecUnion where
  doc : Bytes
  lib : Bytes
  name : Bytes
  cases : List SpecUnionCase
deriving Repr, Inhabited

/-- A case of an enumeration. -/
structure SpecEnumCase where
  doc : Bytes
  name : Bytes
  value : UInt32
deriving DecidableEq, Repr, Inhabited

/-- An enumeration, of values or of errors. -/
structure SpecEnum where
  doc : Bytes
  lib : Bytes
  name : Bytes
  cases : List SpecEnumCase
deriving DecidableEq, Repr, Inhabited

/-- Where a parameter of an event stands. -/
inductive SpecLocation where
  | data
  | topicList
deriving DecidableEq, Repr, Inhabited

/-- How the data of an event holds its data parameters. -/
inductive SpecDataFormat where
  | singleValue
  | vec
  | map
deriving DecidableEq, Repr, Inhabited

/-- A parameter of an event. -/
structure SpecParam where
  doc : Bytes
  name : Bytes
  type : SpecType
  location : SpecLocation
deriving Repr, Inhabited

/-- An event. -/
structure SpecEvent where
  doc : Bytes
  lib : Bytes
  name : Bytes
  prefixTopics : List Bytes
  params : List SpecParam
  dataFormat : SpecDataFormat
deriving Repr, Inhabited

/-- An entry of an interface. -/
inductive SpecEntry where
  | function (f : SpecFunction)
  | struct (s : SpecStruct)
  | union (u : SpecUnion)
  | enum (e : SpecEnum)
  | errorEnum (e : SpecEnum)
  | event (e : SpecEvent)
deriving Repr, Inhabited

end ContractEvents
