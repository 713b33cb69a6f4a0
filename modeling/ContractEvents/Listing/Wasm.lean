/-
Module: ContractEvents.Listing.Wasm
Purpose: The interface section of a compiled contract.
Main exports: Wasm.Fault, Wasm.sectionData, Wasm.readEntries
-/
import ContractEvents.Listing.Format
import ContractEvents.Spec.Codec
import ContractEvents.Text.Utf8

namespace ContractEvents.Wasm

/-!
A module is a header and a sequence of sections, each an id, a length and a body.  The interface is
the body of the first custom section of a certain name.  Everything in front of that section has to
be framed correctly; nothing behind it is looked at.
-/

/-- Why a compiled contract gives no interface. -/
inductive Fault where
  | unreadable
  | noSpec
  | badSpec
deriving DecidableEq, Repr, Inhabited

/-- The fault in words. -/
def Fault.message : Fault → String
  | .unreadable => "reading wasm"
  | .noSpec => "contract spec not found"
  | .badSpec => "parsing contract spec"

/-- The name of the section that holds the interface. -/
def specSection : Bytes := Utf8.encode "contractspecv0"

/-- A 32-bit number in groups of seven bits, least significant first.  The fifth group has room for
four bits, and none follows it. -/
def varWord (shift acc : Nat) : Bytes → Option (Nat × Bytes)
  | [] => none
  | b :: rest =>
      if 28 ≤ shift && 16 ≤ b.toNat then none
      else
        let acc := acc + b.toNat % 128 * Nat.pow 2 shift
        if b.toNat < 128 then some (acc, rest) else varWord (shift + 7) acc rest

/-- A 32-bit number. -/
def readWord (bs : Bytes) : Option (Nat × Bytes) := varWord 0 0 bs

/-- The next `n` bytes. -/
def takeExactly (n : Nat) (bs : Bytes) : Option (Bytes × Bytes) :=
  if n ≤ bs.length then some (bs.take n, bs.drop n) else none

/-- Bytes behind their length. -/
def readSized (bs : Bytes) : Option (Bytes × Bytes) := do
  let (n, rest) ← readWord bs
  takeExactly n rest

/-- The name and the content of a custom section. -/
def customSection (body : Bytes) : Option (Bytes × Bytes) := do
  let (name, content) ← readSized body
  if (Utf8.decode name).isOk then some (name, content) else none

/-- `count` function bodies that fill the bytes exactly. -/
def areBodies : (count : Nat) → Bytes → Bool
  | 0, rest => rest.isEmpty
  | count + 1, bs =>
      match readSized bs with
      | some (_, rest) => areBodies count rest
      | none => false

/-- Is the body of a section of a module framed as its id demands? -/
def isFramed (id : Nat) (body : Bytes) : Bool :=
  if id ∈ [1, 2, 3, 4, 5, 6, 7, 9, 11, 13] then (readWord body).isSome
  else if id ∈ [8, 12] then (readWord body).any fun (_, rest) => rest.isEmpty
  else if id = 10 then (readWord body).any fun (count, rest) => areBodies count rest
  else true

/-- What a header announces. -/
inductive Encoding where
  | module
  | component
deriving DecidableEq, Repr, Inhabited

/-- Reads a header: the magic bytes and a version, whose upper half tells the encoding. -/
def readHeader (content : Bytes) : Option (Encoding × Bytes) :=
  if ListingFormat.wasmMagic.isPrefixOf content then
    match content.drop 4 with
    | _ :: _ :: low :: high :: rest =>
        if high ≠ 0 then none
        else if low = 0 then some (.module, rest)
        else if low = 1 then some (.component, rest)
        else none
    | _ => none
  else none

/-- The content of the first interface section.  Every turn takes a section, so the number of bytes
is fuel enough. -/
def findSpec (encoding : Encoding) : (fuel : Nat) → Bytes → Except Fault Bytes
  | _, [] => .error .noSpec
  | 0, _ => .error .unreadable
  | fuel + 1, id :: rest =>
      if 128 ≤ id.toNat then .error .unreadable
      else
        match readSized rest with
        | none => .error .unreadable
        | some (body, rest) =>
            if id = 0 then
              match customSection body with
              | none => .error .unreadable
              | some (name, content) =>
                  if name = specSection then .ok content else findSpec encoding fuel rest
            else if encoding = .module && !isFramed id.toNat body then .error .unreadable
            else findSpec encoding fuel rest

/-- The content of the interface section of a compiled contract. -/
def sectionData (content : Bytes) : Except Fault Bytes :=
  match readHeader content with
  | none => .error .unreadable
  | some (encoding, rest) => findSpec encoding rest.length rest

/-- The limit of nesting within an interface section. -/
def nestingLimit : Nat := 500

/-- Reads entries up to the end.  Each takes a byte, so the number of bytes is fuel enough. -/
def readAll : (fuel : Nat) → Xdr.Source → Except Xdr.Fault (List SpecEntry)
  | 0, _ => .ok []
  | fuel + 1, source =>
      if source.ready.isEmpty then .ok []
      else do
        let reader := Xdr.Reader.nested (SpecEntry.reader source.bound)
        let (entry, rest) ← reader (some nestingLimit) source
        let entries ← readAll fuel rest
        return entry :: entries

/-- Reads the entries of an interface section. -/
def readEntries (content : Bytes) : Except Fault (List SpecEntry) := do
  let data ← sectionData content
  (readAll data.length (Xdr.Source.ofBytes data)).mapError fun _ => .badSpec

end ContractEvents.Wasm
