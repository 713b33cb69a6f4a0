/-
Module: ContractEvents.Spec.Encoding
Purpose: Interface entries from JSON.
Main exports: SpecType.ofJson, SpecEntry.ofJson, SpecEntry.listOfJson
-/
import ContractEvents.Json.Decoder
import ContractEvents.Spec.Basic
import ContractEvents.Text.Escaped

namespace ContractEvents

open Json (Mismatch)

/-!
Texts stand in their escaped spelling.  The maxima of the binary form do not hold here.
-/

/-- A text in its escaped spelling. -/
def escapedBytes (value : Json) : Except Mismatch Bytes := do
  let s ← Json.toText value
  match Escaped.decode? s with
  | some bs => return bs
  | none => throw (.wrongValue value "escaped text")

namespace SpecType

/-- The types that are nothing but a name. -/
def ofName? : String → Option SpecType
  | "val" => some .val
  | "bool" => some .bool
  | "void" => some .void
  | "error" => some .error
  | "u32" => some .u32
  | "i32" => some .i32
  | "u64" => some .u64
  | "i64" => some .i64
  | "timepoint" => some .timepoint
  | "duration" => some .duration
  | "u128" => some .u128
  | "i128" => some .i128
  | "u256" => some .u256
  | "i256" => some .i256
  | "bytes" => some .bytes
  | "string" => some .string
  | "symbol" => some .symbol
  | "address" => some .address
  | "muxed_address" => some .muxedAddress
  | _ => none

/-- Reads a type nested at most `bound` deep. -/
def read : (bound : Nat) → Json → Except Mismatch SpecType
  | 0, value => .error (.wrongType value "type")
  | bound + 1, value => do
      match ← Json.variant "type" value with
      | ("option", some carried) =>
          carried |> Json.record "option type" ["value_type"] fun fields =>
            return .option (← fields.required "value_type" (read bound))
      | ("result", some carried) =>
          carried |> Json.record "result type" ["ok_type", "error_type"] fun fields => do
            let held ← fields.required "ok_type" (read bound)
            let failure ← fields.required "error_type" (read bound)
            return .result held failure
      | ("vec", some carried) =>
          carried |> Json.record "vector type" ["element_type"] fun fields =>
            return .vec (← fields.required "element_type" (read bound))
      | ("map", some carried) =>
          carried |> Json.record "map type" ["key_type", "value_type"] fun fields => do
            let key ← fields.required "key_type" (read bound)
            let held ← fields.required "value_type" (read bound)
            return .map key held
      | ("tuple", some carried) =>
          carried |> Json.record "tuple type" ["value_types"] fun fields =>
            return .tuple (← fields.required "value_types" (Json.listOf (read bound)))
      | ("bytes_n", some carried) =>
          carried |> Json.record "byte string type" ["n"] fun fields =>
            return .bytesN (← fields.required "n" Json.toWord)
      | ("udt", some carried) =>
          carried |> Json.record "named type" ["name"] fun fields =>
            return .udt (← fields.required "name" escapedBytes)
      | _ => Json.choice "type" ofName? value

/-- Reads a type. -/
def ofJson (value : Json) : Except Mismatch SpecType := read value.height value

end SpecType

namespace SpecField

/-- Reads a field, or an input, of a record called `what`. -/
def ofJson (what : String) : Json → Except Mismatch SpecField :=
  Json.record what ["doc", "name", "type_"] fun fields => do
    let doc ← fields.required "doc" escapedBytes
    let name ← fields.required "name" escapedBytes
    let type ← fields.required "type_" SpecType.ofJson
    return { doc, name, type }

end SpecField

namespace SpecFunction

/-- Reads a function. -/
def ofJson : Json → Except Mismatch SpecFunction :=
  Json.record "function" ["doc", "name", "inputs", "outputs"] fun fields => do
    let doc ← fields.required "doc" escapedBytes
    let name ← fields.required "name" escapedBytes
    let inputs ← fields.required "inputs"
      (Json.listOf (SpecField.ofJson "input"))
    let outputs ← fields.required "outputs" (Json.listOf SpecType.ofJson)
    return { doc, name, inputs, outputs }

end SpecFunction

namespace SpecStruct

/-- Reads a struct. -/
def ofJson : Json → Except Mismatch SpecStruct :=
  Json.record "structure" ["doc", "lib", "name", "fields"] fun fields => do
    let doc ← fields.required "doc" escapedBytes
    let lib ← fields.required "lib" escapedBytes
    let name ← fields.required "name" escapedBytes
    let declared ← fields.required "fields"
      (Json.listOf (SpecField.ofJson "structure field"))
    return { doc, lib, name, fields := declared }

end SpecStruct

namespace SpecUnionCase

/-- Reads a case of a union. -/
def ofJson (value : Json) : Except Mismatch SpecUnionCase := do
  match ← Json.variant "union case" value with
  | ("void_v0", some carried) =>
      carried |> Json.record "void case" ["doc", "name"] fun fields => do
        let doc ← fields.required "doc" escapedBytes
        let name ← fields.required "name" escapedBytes
        return .void doc name
  | ("tuple_v0", some carried) =>
      carried |> Json.record "tuple case" ["doc", "name", "type_"]
        fun fields => do
          let doc ← fields.required "doc" escapedBytes
          let name ← fields.required "name" escapedBytes
          let types ← fields.required "type_" (Json.listOf SpecType.ofJson)
          return .tuple doc name types
  | (name, _) => throw (.unknownVariant name)

end SpecUnionCase

namespace SpecUnion

/-- Reads a union. -/
def ofJson : Json → Except Mismatch SpecUnion :=
  Json.record "union" ["doc", "lib", "name", "cases"] fun fields => do
    let doc ← fields.required "doc" escapedBytes
    let lib ← fields.required "lib" escapedBytes
    let name ← fields.required "name" escapedBytes
    let cases ← fields.required "cases" (Json.listOf SpecUnionCase.ofJson)
    return { doc, lib, name, cases }

end SpecUnion

namespace SpecEnumCase

/-- Reads a case of an enum. -/
def ofJson : Json → Except Mismatch SpecEnumCase :=
  Json.record "enumeration case" ["doc", "name", "value"] fun fields => do
    let doc ← fields.required "doc" escapedBytes
    let name ← fields.required "name" escapedBytes
    let value ← fields.required "value" Json.toWord
    return { doc, name, value }

end SpecEnumCase

namespace SpecEnum

/-- Reads an enum. -/
def ofJson : Json → Except Mismatch SpecEnum :=
  Json.record "enumeration" ["doc", "lib", "name", "cases"] fun fields => do
    let doc ← fields.required "doc" escapedBytes
    let lib ← fields.required "lib" escapedBytes
    let name ← fields.required "name" escapedBytes
    let cases ← fields.required "cases" (Json.listOf SpecEnumCase.ofJson)
    return { doc, lib, name, cases }

end SpecEnum

namespace SpecLocation

/-- The location of a name. -/
def ofName? : String → Option SpecLocation
  | "data" => some .data
  | "topic_list" => some .topicList
  | _ => none

end SpecLocation

namespace SpecDataFormat

/-- The format of a name. -/
def ofName? : String → Option SpecDataFormat
  | "single_value" => some .singleValue
  | "vec" => some .vec
  | "map" => some .map
  | _ => none

end SpecDataFormat

namespace SpecParam

/-- Reads an event parameter. -/
def ofJson : Json → Except Mismatch SpecParam :=
  Json.record "parameter" ["doc", "name", "type_", "location"] fun fields => do
    let doc ← fields.required "doc" escapedBytes
    let name ← fields.required "name" escapedBytes
    let type ← fields.required "type_" SpecType.ofJson
    let location ← fields.required "location"
      (Json.choice "location" SpecLocation.ofName?)
    return { doc, name, type, location }

end SpecParam

namespace SpecEvent

/-- Reads an event. -/
def ofJson : Json → Except Mismatch SpecEvent :=
  Json.record "event" ["doc", "lib", "name", "prefix_topics", "params", "data_format"]
    fun fields => do
      let doc ← fields.required "doc" escapedBytes
      let lib ← fields.required "lib" escapedBytes
      let name ← fields.required "name" escapedBytes
      let prefixTopics ← fields.required "prefix_topics" (Json.listOf escapedBytes)
      let params ← fields.required "params" (Json.listOf SpecParam.ofJson)
      let dataFormat ← fields.required "data_format"
        (Json.choice "data format" SpecDataFormat.ofName?)
      return { doc, lib, name, prefixTopics, params, dataFormat }

end SpecEvent

namespace SpecEntry

/-- Reads an entry. -/
def ofJson (value : Json) : Except Mismatch SpecEntry := do
  match ← Json.variant "entry" value with
  | ("function_v0", some carried) => .function <$> SpecFunction.ofJson carried
  | ("udt_struct_v0", some carried) => .struct <$> SpecStruct.ofJson carried
  | ("udt_union_v0", some carried) => .union <$> SpecUnion.ofJson carried
  | ("udt_enum_v0", some carried) => .enum <$> SpecEnum.ofJson carried
  | ("udt_error_enum_v0", some carried) => .errorEnum <$> SpecEnum.ofJson carried
  | ("event_v0", some carried) => .event <$> SpecEvent.ofJson carried
  | (name, _) => throw (.unknownVariant name)

/-- Reads the array of the entries of an interface. -/
def listOfJson : Json → Except Mismatch (List SpecEntry) := Json.listOf ofJson

end SpecEntry

end ContractEvents
