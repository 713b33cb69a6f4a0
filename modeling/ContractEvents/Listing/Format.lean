/-
Module: ContractEvents.Listing.Format
Purpose: The formats of interface listings, and which one a content seems to have.
Main exports: ListingFormat, ListingFormat.detect
-/
import ContractEvents.Bytes.Basic
import ContractEvents.Text.Blank

namespace ContractEvents

/-- What a listing is read from: a compiled contract, a JSON array of entries, or base64 entries on
lines of their own. -/
inductive ListingFormat where
  | wasm
  | json
  | base64
deriving DecidableEq, Repr, Inhabited

namespace ListingFormat

/-- The bytes that open a compiled contract. -/
def wasmMagic : Bytes := [0x00, 0x61, 0x73, 0x6D]

/-- The format that the leading bytes suggest: the magic bytes a compiled contract, an opening
bracket behind ASCII blanks JSON, and anything else base64. -/
def detect (content : Bytes) : ListingFormat :=
  if wasmMagic.isPrefixOf content then .wasm
  else
    match content.find? fun b => !Text.isAsciiBlank b with
    | some 0x5B => .json
    | _ => .base64

/-- The name of a format in error details. -/
def name : ListingFormat → String
  | .wasm => "wasm"
  | .json => "json"
  | .base64 => "base64"

/-- The name of a format as a choice. -/
def title : ListingFormat → String
  | .wasm => "Wasm"
  | .json => "Json"
  | .base64 => "Base64"

end ListingFormat

end ContractEvents
