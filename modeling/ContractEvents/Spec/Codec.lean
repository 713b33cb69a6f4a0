/-
Module: ContractEvents.Spec.Codec
Purpose: Interface entries in binary form: readers beside writers.
Main exports: SpecType.reader, SpecType.write, SpecEntry.reader, SpecEntry.write
-/
import ContractEvents.Spec.Basic
import ContractEvents.Xdr.Writer

namespace ContractEvents

open Xdr

/-! The longest texts, in bytes, and the longest lists. -/

namespace SpecLimit

/-- The longest documentation text. -/
def doc : Nat := 1024
/-- The longest library name. -/
def lib : Nat := 80
/-- The longest symbol. -/
def symbol : Nat := 32
/-- The longest name of a field, an input or a parameter. -/
def fieldName : Nat := 30
/-- The longest name of a type or a case. -/
def typeName : Nat := 60
/-- How many inputs a function can have. -/
def inputs : Nat := 10
/-- How many outputs a function can have. -/
def outputs : Nat := 1
/-- How many fields a struct can have. -/
def structFields : Nat := 40
/-- How many cases a union or an enum can have. -/
def cases : Nat := 50
/-- How many items a tuple can have. -/
def tupleItems : Nat := 12
/-- How many prefix topics an event can have. -/
def prefixTopics : Nat := 2
/-- How many parameters an event can have. -/
def params : Nat := 50

end SpecLimit

/-- A symbol: a byte string within a value of its own. -/
def symbolReader : Reader Bytes := Reader.nested (Reader.blob SpecLimit.symbol)

namespace SpecType

/-- A type behind a reference, two levels down. -/
def boxed {α : Type} (reader : Reader α) : Reader α := Reader.nested (Reader.nested reader)

/-- A type nested at most `bound` deep.  Each type inside another is four levels of nesting below
it: a reference, the record that holds it, a reference or a list, and the type itself. -/
def reader : (bound : Nat) → Reader SpecType
  | 0 => Reader.fail .tooDeep
  | bound + 1 => Reader.nested do
      match (← Reader.choice some).toNat with
      | 0 => return .val
      | 1 => return .bool
      | 2 => return .void
      | 3 => return .error
      | 4 => return .u32
      | 5 => return .i32
      | 6 => return .u64
      | 7 => return .i64
      | 8 => return .timepoint
      | 9 => return .duration
      | 10 => return .u128
      | 11 => return .i128
      | 12 => return .u256
      | 13 => return .i256
      | 14 => return .bytes
      | 16 => return .string
      | 17 => return .symbol
      | 19 => return .address
      | 20 => return .muxedAddress
      | 1000 => return .option (← boxed (Reader.nested (reader bound)))
      | 1001 =>
          boxed do
            let value ← Reader.nested (reader bound)
            let failure ← Reader.nested (reader bound)
            return .result value failure
      | 1002 => return .vec (← boxed (Reader.nested (reader bound)))
      | 1004 =>
          boxed do
            let key ← Reader.nested (reader bound)
            let value ← Reader.nested (reader bound)
            return .map key value
      | 1005 => return .tuple (← boxed (Reader.list SpecLimit.tupleItems (reader bound)))
      | 1006 => return .bytesN (← Reader.nested Reader.word)
      | 2000 => return .udt (← Reader.nested (Reader.blob SpecLimit.typeName))
      | _ => Reader.fail .invalid

mutual

/-- The binary form of a type. -/
def write : SpecType → Bytes
  | .val => Bytes.ofWord 0
  | .bool => Bytes.ofWord 1
  | .void => Bytes.ofWord 2
  | .error => Bytes.ofWord 3
  | .u32 => Bytes.ofWord 4
  | .i32 => Bytes.ofWord 5
  | .u64 => Bytes.ofWord 6
  | .i64 => Bytes.ofWord 7
  | .timepoint => Bytes.ofWord 8
  | .duration => Bytes.ofWord 9
  | .u128 => Bytes.ofWord 10
  | .i128 => Bytes.ofWord 11
  | .u256 => Bytes.ofWord 12
  | .i256 => Bytes.ofWord 13
  | .bytes => Bytes.ofWord 14
  | .string => Bytes.ofWord 16
  | .symbol => Bytes.ofWord 17
  | .address => Bytes.ofWord 19
  | .muxedAddress => Bytes.ofWord 20
  | .option inner => Bytes.ofWord 1000 ++ inner.write
  | .result value failure => Bytes.ofWord 1001 ++ value.write ++ failure.write
  | .vec item => Bytes.ofWord 1002 ++ item.write
  | .map key value => Bytes.ofWord 1004 ++ key.write ++ value.write
  | .tuple items =>
      Bytes.ofWord 1005 ++ Bytes.ofWord (UInt32.ofNat items.length) ++ writeItems items
  | .bytesN length => Bytes.ofWord 1006 ++ Bytes.ofWord length
  | .udt name => Bytes.ofWord 2000 ++ blob name

/-- The binary forms of types, one after the other. -/
def writeItems : List SpecType → Bytes
  | [] => []
  | item :: items => item.write ++ writeItems items

end

/-- Reads a type from base64 text. -/
def ofText (text : String) : Except Fault SpecType := Reader.runText reader text

end SpecType

namespace SpecField

/-- A field whose types are nested at most `bound` deep. -/
def reader (bound : Nat) : Reader SpecField := Reader.nested do
  let doc ← Reader.blob SpecLimit.doc
  let name ← Reader.blob SpecLimit.fieldName
  let type ← SpecType.reader bound
  return { doc, name, type }

/-- The binary form of a field. -/
def write (field : SpecField) : Bytes := blob field.doc ++ blob field.name ++ field.type.write

end SpecField

namespace SpecFunction

/-- A function whose types are nested at most `bound` deep. -/
def reader (bound : Nat) : Reader SpecFunction := Reader.nested do
  let doc ← Reader.blob SpecLimit.doc
  let name ← symbolReader
  let inputs ← Reader.list SpecLimit.inputs (SpecField.reader bound)
  let outputs ← Reader.list SpecLimit.outputs (SpecType.reader bound)
  return { doc, name, inputs, outputs }

/-- The binary form of a function. -/
def write (f : SpecFunction) : Bytes :=
  blob f.doc ++ blob f.name ++ list SpecField.write f.inputs ++ list SpecType.write f.outputs

end SpecFunction

namespace SpecStruct

/-- A struct whose types are nested at most `bound` deep. -/
def reader (bound : Nat) : Reader SpecStruct := Reader.nested do
  let doc ← Reader.blob SpecLimit.doc
  let lib ← Reader.blob SpecLimit.lib
  let name ← Reader.blob SpecLimit.typeName
  let fields ← Reader.list SpecLimit.structFields (SpecField.reader bound)
  return { doc, lib, name, fields }

/-- The binary form of a struct. -/
def write (s : SpecStruct) : Bytes :=
  blob s.doc ++ blob s.lib ++ blob s.name ++ list SpecField.write s.fields

end SpecStruct

namespace SpecUnionCase

/-- A case of a union whose types are nested at most `bound` deep. -/
def reader (bound : Nat) : Reader SpecUnionCase := Reader.nested do
  match (← Reader.choice some).toNat with
  | 0 => Reader.nested do
      return .void (← Reader.blob SpecLimit.doc) (← Reader.blob SpecLimit.typeName)
  | 1 => Reader.nested do
      let doc ← Reader.blob SpecLimit.doc
      let name ← Reader.blob SpecLimit.typeName
      let types ← Reader.list SpecLimit.tupleItems (SpecType.reader bound)
      return .tuple doc name types
  | _ => Reader.fail .invalid

/-- The binary form of a case of a union. -/
def write : SpecUnionCase → Bytes
  | .void doc name => Bytes.ofWord 0 ++ blob doc ++ blob name
  | .tuple doc name types =>
      Bytes.ofWord 1 ++ blob doc ++ blob name ++ list SpecType.write types

end SpecUnionCase

namespace SpecUnion

/-- A union whose types are nested at most `bound` deep. -/
def reader (bound : Nat) : Reader SpecUnion := Reader.nested do
  let doc ← Reader.blob SpecLimit.doc
  let lib ← Reader.blob SpecLimit.lib
  let name ← Reader.blob SpecLimit.typeName
  let cases ← Reader.list SpecLimit.cases (SpecUnionCase.reader bound)
  return { doc, lib, name, cases }

/-- The binary form of a union. -/
def write (u : SpecUnion) : Bytes :=
  blob u.doc ++ blob u.lib ++ blob u.name ++ list SpecUnionCase.write u.cases

end SpecUnion

namespace SpecEnumCase

/-- A case of an enum. -/
def reader : Reader SpecEnumCase := Reader.nested do
  let doc ← Reader.blob SpecLimit.doc
  let name ← Reader.blob SpecLimit.typeName
  let value ← Reader.word
  return { doc, name, value }

/-- The binary form of a case of an enum. -/
def write (c : SpecEnumCase) : Bytes := blob c.doc ++ blob c.name ++ Bytes.ofWord c.value

end SpecEnumCase

namespace SpecEnum

/-- An enum. -/
def reader : Reader SpecEnum := Reader.nested do
  let doc ← Reader.blob SpecLimit.doc
  let lib ← Reader.blob SpecLimit.lib
  let name ← Reader.blob SpecLimit.typeName
  let cases ← Reader.list SpecLimit.cases SpecEnumCase.reader
  return { doc, lib, name, cases }

/-- The binary form of an enum. -/
def write (e : SpecEnum) : Bytes :=
  blob e.doc ++ blob e.lib ++ blob e.name ++ list SpecEnumCase.write e.cases

end SpecEnum

namespace SpecLocation

/-- The number of a location. -/
def number : SpecLocation → UInt32
  | .data => 0
  | .topicList => 1

/-- The location of a number. -/
def ofNumber? (n : UInt32) : Option SpecLocation :=
  match n.toNat with
  | 0 => some .data
  | 1 => some .topicList
  | _ => none

end SpecLocation

namespace SpecDataFormat

/-- The number of a format. -/
def number : SpecDataFormat → UInt32
  | .singleValue => 0
  | .vec => 1
  | .map => 2

/-- The format of a number. -/
def ofNumber? (n : UInt32) : Option SpecDataFormat :=
  match n.toNat with
  | 0 => some .singleValue
  | 1 => some .vec
  | 2 => some .map
  | _ => none

end SpecDataFormat

namespace SpecParam

/-- An event parameter whose types are nested at most `bound` deep. -/
def reader (bound : Nat) : Reader SpecParam := Reader.nested do
  let doc ← Reader.blob SpecLimit.doc
  let name ← Reader.blob SpecLimit.fieldName
  let type ← SpecType.reader bound
  let location ← Reader.choice SpecLocation.ofNumber?
  return { doc, name, type, location }

/-- The binary form of an event parameter. -/
def write (p : SpecParam) : Bytes :=
  blob p.doc ++ blob p.name ++ p.type.write ++ Bytes.ofWord p.location.number

end SpecParam

namespace SpecEvent

/-- An event whose types are nested at most `bound` deep. -/
def reader (bound : Nat) : Reader SpecEvent := Reader.nested do
  let doc ← Reader.blob SpecLimit.doc
  let lib ← Reader.blob SpecLimit.lib
  let name ← symbolReader
  let prefixTopics ← Reader.list SpecLimit.prefixTopics symbolReader
  let params ← Reader.list SpecLimit.params (SpecParam.reader bound)
  let dataFormat ← Reader.choice SpecDataFormat.ofNumber?
  return { doc, lib, name, prefixTopics, params, dataFormat }

/-- The binary form of an event. -/
def write (e : SpecEvent) : Bytes :=
  blob e.doc ++ blob e.lib ++ blob e.name ++ list blob e.prefixTopics ++
    list SpecParam.write e.params ++ Bytes.ofWord e.dataFormat.number

end SpecEvent

namespace SpecEntry

/-- An entry whose types are nested at most `bound` deep. -/
def reader (bound : Nat) : Reader SpecEntry := Reader.nested do
  match (← Reader.choice some).toNat with
  | 0 => return .function (← SpecFunction.reader bound)
  | 1 => return .struct (← SpecStruct.reader bound)
  | 2 => return .union (← SpecUnion.reader bound)
  | 3 => return .enum (← SpecEnum.reader)
  | 4 => return .errorEnum (← SpecEnum.reader)
  | 5 => return .event (← SpecEvent.reader bound)
  | _ => Reader.fail .invalid

/-- The binary form of an entry. -/
def write : SpecEntry → Bytes
  | .function f => Bytes.ofWord 0 ++ f.write
  | .struct s => Bytes.ofWord 1 ++ s.write
  | .union u => Bytes.ofWord 2 ++ u.write
  | .enum e => Bytes.ofWord 3 ++ e.write
  | .errorEnum e => Bytes.ofWord 4 ++ e.write
  | .event e => Bytes.ofWord 5 ++ e.write

/-- Reads an entry from base64 text. -/
def ofText (text : String) : Except Fault SpecEntry := Reader.runText reader text

/-- The base64 text of an entry. -/
def toText (entry : SpecEntry) : String := Base64.encode entry.write

end SpecEntry

end ContractEvents
