/-
Module: ContractEvents.Listing.Loader
Purpose: Interface listings from their formats and from files.
Main exports: Listing, ListingFault, loadListing, loadListingFile, ListingFault.report
-/
import ContractEvents.Json.Parser
import ContractEvents.Listing.Wasm
import ContractEvents.Report
import ContractEvents.Spec.Encoding

namespace ContractEvents

/-- The entries that a contract publishes, in order. -/
structure Listing where
  entries : List SpecEntry
deriving Repr, Inhabited

/-- How many entries are events. -/
def Listing.eventCount (listing : Listing) : Nat :=
  listing.entries.countP fun
    | .event _ => true
    | _ => false

/-- Why a JSON text is no listing. -/
inductive JsonListingFault where
  | text (fault : Json.Fault)
  | shape (mismatch : Json.Mismatch)
deriving Repr, Inhabited

/-- The fault in words. -/
def JsonListingFault.message : JsonListingFault → String
  | .text fault => fault.message
  | .shape mismatch => mismatch.message

/-- Why there is no listing. -/
inductive ListingFault where
  /-- The file cannot be read. -/
  | unreadable (path reason : String)
  /-- The compiled contract gives no interface. -/
  | wasm (fault : Wasm.Fault)
  /-- The content is not UTF-8 text. -/
  | notText (format : ListingFormat) (fault : Utf8.Fault)
  /-- The text is not a JSON array of entries. -/
  | json (fault : JsonListingFault)
  /-- A line, counted from one, is not an entry. -/
  | entry (line : Nat) (fault : Xdr.Fault)
deriving Repr, Inhabited

namespace ListingFault

/-- The error that tells of a fault. -/
def report (fresh : TraceId) : ListingFault → Report
  | .unreadable path reason =>
      Report.newListing fresh .file "Failed to read listing file" (some (.plain reason none))
        [("path", path)]
  | .wasm fault =>
      Report.newListing fresh .parse
        ("Failed to read contract spec from WASM: " ++ fault.message) none
        [("format", ListingFormat.wasm.name)]
  | .notText format fault =>
      Report.newListing fresh .parse "Listing is not valid UTF-8"
        (some (.plain fault.message none)) [("format", format.name)]
  | .json fault =>
      Report.newListing fresh .parse "Failed to parse contract spec JSON"
        (some (.plain fault.message none)) [("format", ListingFormat.json.name)]
  | .entry line fault =>
      Report.newListing fresh .parse "Failed to decode spec entry"
        (some (.plain fault.message none))
        [("format", ListingFormat.base64.name), ("line", toString line)]

/-- The fault in words. -/
def message (fault : ListingFault) : String := (fault.report 0).message

end ListingFault

/-- Reads the interface of a compiled contract. -/
def loadWasmListing (content : Bytes) : Except ListingFault Listing :=
  match Wasm.readEntries content with
  | .ok entries => .ok ⟨entries⟩
  | .error fault => .error (.wasm fault)

/-- Reads a JSON array of entries.  What stands under names that no entry has is not looked at. -/
def loadJsonListing (text : String) : Except ListingFault Listing :=
  match Json.parseLoosely text with
  | .error fault => .error (.json (.text fault))
  | .ok value =>
      match SpecEntry.listOfJson value with
      | .error mismatch => .error (.json (.shape mismatch))
      | .ok entries => .ok ⟨entries⟩

/-- Reads the entries on lines, the first of which is line `number`.  Blank lines are skipped, but
count. -/
def readEntryLines (number : Nat) : List String → Except ListingFault (List SpecEntry)
  | [] => .ok []
  | line :: lines =>
      let text := Text.trimBlanks line
      if text.isEmpty then readEntryLines (number + 1) lines
      else
        match SpecEntry.ofText text with
        | .error fault => .error (.entry number fault)
        | .ok entry => (entry :: ·) <$> readEntryLines (number + 1) lines

/-- Reads base64 entries, one on each line that is not blank. -/
def loadBase64Listing (text : String) : Except ListingFault Listing :=
  Listing.mk <$> readEntryLines 1 (Text.splitLines text)

/-- Reads a content of a known format. -/
def loadListing (content : Bytes) (format : ListingFormat) : Except ListingFault Listing :=
  match format with
  | .wasm => loadWasmListing content
  | .json => do
      let text ← (Utf8.decode content).mapError (.notText format)
      loadJsonListing text
  | .base64 => do
      let text ← (Utf8.decode content).mapError (.notText format)
      loadBase64Listing text

/-- Reads a listing file, given its path and what reading it gave: its content, or the reason why it
could not be read.  The format is detected. -/
def loadListingFile (path : String) (file : Except String Bytes) : Except ListingFault Listing :=
  match file with
  | .error reason => .error (.unreadable path reason)
  | .ok content => loadListing content (ListingFormat.detect content)

end ContractEvents
