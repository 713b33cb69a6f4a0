/-
Module: ContractEvents.Logging.Line
Purpose: The lines of a log: what they say of a listing, of its catalog and of a record.
Main exports: LogLine, Report.logLine?, loadingLines, EventDecoder.logLines, EventCatalog.logLines
-/
import ContractEvents.Decoding.Catalog
import ContractEvents.Logging.Settings

namespace ContractEvents

/-!
A line has a level and a text: a message, and behind it fields with their values.  An error that has
a trace id is logged without the id and without the time it arose at, which no two runs share.
-/

/-- A line of the log. -/
structure LogLine where
  level : LogLevel
  text : String
deriving DecidableEq, Repr, Inhabited

/-- The line of a message with fields. -/
def LogLine.ofFields (level : LogLevel) (message : String) (fields : List (String × String)) :
    LogLine :=
  ⟨level, " ".intercalate (message :: fields.map fun (name, value) => name ++ "=" ++ value)⟩

/-! Listings. -/

/-- The line that tells of an error with a trace id, and of the chain behind it. -/
def Report.logLine? : Report → Option LogLine
  | .context text details source _ | .listing _ text details source _ =>
      some (.ofFields .error "Error occurred"
        (("message", Report.withDetails text details) ::
          (source.map fun source => ("error.chain", source.chain)).toList))
  | .plain .. => none

/-- The line that tells what a listing is read from. -/
def contentLine (path : String) (content : Bytes) : LogLine :=
  .ofFields .debug "Loading listing"
    [("path", path), ("format", (ListingFormat.detect content).name),
      ("bytes", toString content.length)]

/-- The line that tells of the catalog that is made of a listing. -/
def builtLine (listing : Listing) (catalog : EventCatalog) : LogLine :=
  .ofFields .debug "Built event catalog"
    [("entries", toString listing.entries.length), ("events", toString catalog.decoders.length)]

/-- The line that tells of a listing. -/
def loadedLine (path : String) (listing : Listing) (catalog : EventCatalog) : LogLine :=
  .ofFields .info "Loaded contract interface"
    [("path", path), ("entries", toString listing.entries.length),
      ("events", toString catalog.decoders.length)]

/-- The lines about a listing at a path, given what reading the path gave and what came of it.  The
error of a listing that is not loaded has its own line as the source of what is reported. -/
def loadingLines {ε : Type} (path : String) (file : Except ε Bytes)
    (loaded : Except Report (Listing × EventCatalog)) : List LogLine :=
  (file.toOption.map (contentLine path)).toList ++
    match loaded with
    | .ok (listing, catalog) => [builtLine listing catalog, loadedLine path listing catalog]
    | .error report => (report.source?.bind Report.logLine?).toList

/-! Records. -/

/-- The lines about the entries of a payload that are skipped, for their keys cannot be decoded. -/
def skippedLines (payload : Value) : List LogLine :=
  (EventDecoder.entriesOf payload).filterMap fun (key, _) =>
    match key.decode with
    | .ok _ => none
    | .error fault =>
        some (.ofFields .trace "Skipping payload entry with undecodable key"
          [("error", fault.message)])

namespace EventDecoder

/-- The line that tells of the verdict on a record. -/
def verdictLine (decoder : EventDecoder) : Except EventDecodeError DecodedEvent → LogLine
  | .ok _ => .ofFields .trace "Record decoded" [("event", decoder.name)]
  | .error error =>
      .ofFields .debug "Record rejected"
        [("event", decoder.name), ("stage", error.stage.text), ("error", error.message)]

/-- The lines about a record.  Entries are skipped in the last stage only, and only if the declared
shape is a map. -/
def logLines (decoder : EventDecoder) (record : EventRecord) : List LogLine :=
  let values : ValueDecoder Unit := ValueDecoder.native
  let verdict := ((decoder.decode values record).run ()).1
  let skipped := match decoder.descriptor.payloadShape, verdict with
    | .map, .ok _ | .map, .error (.missingPayloadFields ..) => skippedLines record.payload
    | _, _ => []
  skipped ++ [decoder.verdictLine verdict]

end EventDecoder

/-- The lines about a record that is decoded as the event of a name, or as the event it belongs to.
A record for which there is no decoder has none. -/
def EventCatalog.logLines (catalog : EventCatalog) (name : Option String) (record : EventRecord) :
    List LogLine :=
  let values : ValueDecoder Unit := ValueDecoder.native
  let decoder := match name with
    | some name => catalog.get? name
    | none => ((catalog.find values record).run ()).1
  (decoder.map fun decoder => decoder.logLines record).getD []

end ContractEvents
