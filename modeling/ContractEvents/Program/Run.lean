/-
Module: ContractEvents.Program.Run
Purpose: What a run of the program prints, logs and answers.
Main exports: Outcome, Surroundings, runProgram, plannedLog
-/
import ContractEvents.Decoding.Catalog
import ContractEvents.Event.Encoding
import ContractEvents.Files.Tree
import ContractEvents.Json.Printer
import ContractEvents.Logging.Destination
import ContractEvents.Logging.Line
import ContractEvents.Program.Help

namespace ContractEvents

/-! Files. -/

/-- The content of the file at a path, or the reason why it cannot be read. -/
abbrev Files := String → Except FileFault Bytes

/-- Reads a listing and makes a catalog of its events. -/
def loadCatalog (files : Files) (path : String) : Except Report (Listing × EventCatalog) :=
  match loadListingFile path ((files path).mapError FileFault.message) with
  | .ok listing => .ok (listing, EventCatalog.ofListing listing)
  | .error fault => .error (.plain ("Failed to load listing " ++ path) (some (fault.report 0)))

/-- Adds a context to an error. -/
def withContext {α : Type} (context : String) : Except Report α → Except Report α :=
  Except.mapError fun cause => .plain context (some cause)

/-- Reads a file as text. -/
def readText (files : Files) (path : String) : Except Report String :=
  match files path with
  | .error fault => .error (.plain fault.message none)
  | .ok content =>
      match Utf8.decode content with
      | .ok text => .ok text
      | .error _ => .error (.plain "stream did not contain valid UTF-8" none)

/-! Records. -/

/-- Reads one RPC event, or an array of them.  Of members with equal names the last one stands. -/
def readRpcEvents (value : Json) : Except Report (List RpcEvent) :=
  Except.mapError (fun mismatch => .plain mismatch.message none) <|
    match value.normal with
    | .array items => items.mapM RpcEvent.ofJson
    | other => return [← RpcEvent.ofJson other]

/-- The record of an RPC event. -/
def readRpcRecord (event : RpcEvent) : Except Report EventRecord :=
  withContext ("Failed to read RPC event " ++ event.id)
    ((EventRecord.ofRpcEvent event).mapError RecordError.report)

/-- Reads the events to decode. -/
def readRecords (files : Files) : EventSource → Except Report (List EventRecord)
  | .xdr text => do
      let record ← withContext "Failed to parse contract event XDR"
        ((EventRecord.ofContractEventText (Text.withoutBlanks text)).mapError RecordError.report)
      return [record]
  | .json path => do
      let content ← withContext ("Failed to read " ++ path) (readText files path)
      let value ← withContext ("Failed to parse " ++ path)
        ((Json.parse content).mapError fun fault => .plain fault.message none)
      (← readRpcEvents value).mapM readRpcRecord

/-! Output. -/

/-- A field of an event, as the list of events tells of it. -/
def describeField (field : EventField) (type : NativeType) : Json :=
  Json.ofMembers
    [("name", .string field.name), ("location", field.location.toJson),
      ("wire_type", .string field.type.text), ("native_type", .string type.text),
      ("doc", (field.doc.map Json.string).getD .null)]

/-- An event, as the list of events tells of it. -/
def describeEvent (decoder : EventDecoder) : Json :=
  let descriptor := decoder.descriptor
  Json.ofMembers
    [("name", .string descriptor.name),
      ("prefix_topics", .array (descriptor.prefixTopics.map .string)),
      ("expected_topic_count", .int descriptor.expectedTopicCount),
      ("payload_shape", descriptor.payloadShape.toJson),
      ("fields", .array ((descriptor.fields.zip decoder.fieldTypes).map
        fun (field, _, type) => describeField field type))]

/-- Decodes a record, as the event of a name if there is one, and reads all its fields. -/
def decodeRecord (catalog : EventCatalog) (name : Option String) (record : EventRecord) :
    Except Report Json := do
  let values : ValueDecoder Unit := ValueDecoder.native
  let routing := match name with
    | some name => catalog.decodeAs name values record
    | none => catalog.decode values record
  let event ← (routing.run ()).1.mapError CatalogError.report
  let fields ← (((DecodedEvent.toJson values).run event).run ()).1.1.mapError FieldError.report
  return Json.ofMembers [("event", .string event.name), ("fields", fields)]

/-- The output of `decode`: an object for one event, and an array otherwise. -/
def decodedOutput : List Json → Json
  | [event] => event
  | events => .array events

/-- Carries out a command on a catalog. -/
def Command.output (files : Files) (catalog : EventCatalog) : Command → Except Report Json
  | .events _ => .ok (.array (catalog.decoders.map describeEvent))
  | .decode _ source name => do
      let records ← readRecords files source
      decodedOutput <$> records.mapM (decodeRecord catalog name)

/-- The listing that a command reads. -/
def Command.listing : Command → String
  | .events listing => listing
  | .decode listing _ _ => listing

/-- The files that a command reads. -/
def Command.paths : Command → List String
  | .events listing => [listing]
  | .decode listing (.xdr _) _ => [listing]
  | .decode listing (.json path) _ => [listing, path]

/-! Runs. -/

/-- What a run logs, and where. -/
structure LogOutput where
  settings : LogSettings
  lines : List LogLine
deriving DecidableEq, Repr, Inhabited

/-- What a run does.  A run whose logging is not set up has no log. -/
structure Outcome where
  exitCode : UInt32
  output : String
  errors : String
  log : Option LogOutput
deriving DecidableEq, Repr, Inhabited

/-- Why a log file takes no lines. -/
inductive LogFault where
  /-- The directory that should hold it is not made. -/
  | directory (fault : FileFault)
  /-- It is not opened. -/
  | file (fault : FileFault)
deriving DecidableEq, Repr, Inhabited

/-- What a run finds: the environment, the environment file if there is one, the other files, and
what opening a log file in a directory gives. -/
structure Surroundings where
  environment : Environment
  environmentFile : Option Bytes
  files : Files
  openLog : String → Except LogFault Unit

/-- The lines about records, up to the first that has no output. -/
def EventCatalog.recordLines (catalog : EventCatalog) (name : Option String) :
    List EventRecord → List LogLine
  | [] => []
  | record :: records =>
      catalog.logLines name record ++
        match decodeRecord catalog name record with
        | .ok _ => catalog.recordLines name records
        | .error _ => []

/-- The lines about the records that a command decodes. -/
def Command.recordLines (files : Files) (catalog : EventCatalog) : Command → List LogLine
  | .events _ => []
  | .decode _ source name =>
      match readRecords files source with
      | .ok records => catalog.recordLines name records
      | .error _ => []

/-- Carries out a command: its output or its error, and the lines that it logs. -/
def Command.perform (files : Files) (command : Command) :
    Except Report String × List LogLine :=
  let loaded := loadCatalog files command.listing
  let lines := loadingLines command.listing (files command.listing) loaded
  match loaded with
  | .error report => (.error report, lines)
  | .ok (_, catalog) =>
      ((command.output files catalog).map fun json => json.pretty ++ "\n",
        lines ++ command.recordLines files catalog)

/-- The lines of a log that its level admits, behind the one that tells that it is set up. -/
def logOutput (settings : LogSettings) (lines : List LogLine) : LogOutput :=
  let first : LogLine :=
    .ofFields .debug "Logging is configured"
      [("mode", settings.mode.name), ("level", settings.level.name)]
  ⟨settings, (first :: lines).filter fun line => settings.level.admits line.level⟩

/-- Sets up logging: a log file is opened before the first line. -/
def setUpLogging (surroundings : Surroundings) (settings : LogSettings) : Except LogFault Unit :=
  match settings.mode with
  | .stdout => .ok ()
  | .file => surroundings.openLog settings.directoryPath

/-- Carries out a command with its log.  The error of a command goes to the log, and is printed too
if the log goes to a file. -/
def Command.run (command : Command) (files : Files) (settings : LogSettings) : Outcome :=
  match command.perform files with
  | (.ok output, lines) => ⟨0, output, "", some (logOutput settings lines)⟩
  | (.error report, lines) =>
      let failure : LogLine := .ofFields .error "Command failed" [("error", report.chain)]
      let printed := if settings.mode = .file then report.chain ++ "\n" else ""
      ⟨1, "", printed, some (logOutput settings (lines ++ [failure]))⟩

/-- The outcome of a run that goes on without a log. -/
def Outcome.withoutLog (outcome : Outcome) (fault : FileFault) : Outcome :=
  { outcome with
    errors := "Failed to setup logging: " ++ fault.message ++ "\n" ++ outcome.errors
    log := none }

/-- The outcome of arguments that lead to no command. -/
def Stop.outcome : Stop → Outcome
  | .help topic => ⟨0, topic.text, "", none⟩
  | .version => ⟨0, programVersion ++ "\n", "", none⟩
  | .usage fault => ⟨2, "", fault.message, none⟩

/-- Why a run ends before its command. -/
inductive SetupFault where
  /-- A variable is assigned a value that the environment cannot hold. -/
  | unstorable (name : String)
  | settings (fault : LogSettingsFault)
  /-- The log file is not opened. -/
  | unopened (fault : FileFault)
deriving DecidableEq, Repr, Inhabited

/-- The outcome of a run that ends before its command. -/
def SetupFault.outcome : SetupFault → Outcome
  | .unstorable name => ⟨101, "", "The value assigned to " ++ name ++ " holds a NUL\n", none⟩
  | .settings fault =>
      ⟨2, "", "Invalid logging configuration: " ++ fault.message ++ "\n", none⟩
  | .unopened fault => ⟨101, "", "The log file is not opened: " ++ fault.message ++ "\n", none⟩

/-- The log settings of an invocation. -/
def Invocation.settings (invocation : Invocation) (environment : Environment)
    (file : Option Bytes) : Except SetupFault LogSettings :=
  match file.bind (EnvironmentFile.unstorable? environment) with
  | some name => .error (.unstorable name)
  | none => (resolveSettings environment file invocation.flags).mapError .settings

/-- Carries out an invocation.  It goes on without a log if the directory of the log is not made,
and ends before its command if the log file is not opened. -/
def Invocation.run (invocation : Invocation) (surroundings : Surroundings) : Outcome :=
  match invocation.settings surroundings.environment surroundings.environmentFile with
  | .error fault => fault.outcome
  | .ok settings =>
      let outcome := invocation.command.run surroundings.files settings
      match setUpLogging surroundings settings with
      | .ok () => outcome
      | .error (.directory fault) => outcome.withoutLog fault
      | .error (.file fault) => (SetupFault.unopened fault).outcome

/-- The settings of the log that a run will write, if it gets that far. -/
def plannedLog (arguments : List String) (environment : Environment) (file : Option Bytes) :
    Option LogSettings :=
  match readArguments arguments with
  | .error _ => none
  | .ok invocation => (invocation.settings environment file).toOption

/-- Runs the program. -/
def runProgram (arguments : List String) (surroundings : Surroundings) : Outcome :=
  match readArguments arguments with
  | .error stop => stop.outcome
  | .ok invocation => invocation.run surroundings

end ContractEvents
