/-
Module: ContractEvents.Proofs.BatchRuns
Purpose: Decoding a batch of events gives what decoding each of them alone gives, or nothing.
Main exports: EventCatalog.outputOf, EventCatalog.Fails, DecodingRun, DecodingRun.Pointwise,
  DecodingRun.pointwise
-/
import ContractEvents.Program.Run
import ContractEvents.Proofs.ArrayText
import ContractEvents.Proofs.Outcomes
import ContractEvents.Proofs.SteadyReading
import ContractEvents.Proofs.Utf8RoundTrip
import ContractEvents.Proofs.ValueRoundTrip
import Mathlib

namespace ContractEvents

/-!
A run goes over its events several times: all are read, then the records of all, and only then is
each record decoded and its fields read.  A pass that fails at one event ends the run without
output.  So the passes together succeed just when each event passes all of them, and what they give
for an event hangs on that event alone.
-/

/-- Two passes over items succeed just when each item passes both. -/
theorem mapM_mapM_eq_ok_iff {ε α β γ : Type} {first : α → Except ε β} {second : β → Except ε γ}
    {items : List α} {results : List γ} :
    (∃ middles, items.mapM first = .ok middles ∧ middles.mapM second = .ok results) ↔
      (items.mapM fun item => first item >>= second) = .ok results := by
  simp only [mapM_eq_ok_iff]
  constructor
  · rintro ⟨middles, passed, passedBoth⟩
    induction passed generalizing results with
    | nil =>
        cases passedBoth
        exact .nil
    | cons here behind inductionHypothesis =>
        obtain ⟨_, others, there, left, rfl⟩ := List.forall₂_cons_left_iff.mp passedBoth
        exact .cons (bind_eq_ok_iff.mpr ⟨_, here, there⟩) (inductionHypothesis left)
  · intro passed
    induction passed with
    | nil => exact ⟨[], .nil, .nil⟩
    | cons here behind inductionHypothesis =>
        obtain ⟨middle, passedFirst, passedSecond⟩ := bind_eq_ok_iff.mp here
        obtain ⟨middles, behindFirst, behindSecond⟩ := inductionHypothesis
        exact ⟨middle :: middles, .cons passedFirst behindFirst, .cons passedSecond behindSecond⟩

theorem Json.normalItems_eq_map (items : List Json) : normalItems items = items.map normal := by
  induction items with
  | nil => rfl
  | cons item items inductionHypothesis => rw [normalItems, inductionHypothesis, List.map_cons]

/-! ### One event -/

/-- The event that an item of a batch is read as. -/
def readItem (item : Json) : Except Report RpcEvent :=
  (RpcEvent.ofJson item.normal).mapError fun mismatch => .plain mismatch.message none

theorem readRpcEvents_array {items : List Json} {events : List RpcEvent} :
    readRpcEvents (.array items) = .ok events ↔ items.mapM readItem = .ok events := by
  have unfolded : readRpcEvents (.array items) =
      ((Json.normalItems items).mapM RpcEvent.ofJson).mapError
        fun mismatch => .plain mismatch.message none := rfl
  rw [unfolded, mapError_eq_ok_iff, Json.normalItems_eq_map, mapM_eq_ok_iff, mapM_eq_ok_iff,
    List.forall₂_map_left_iff]
  simp only [readItem, mapError_eq_ok_iff]

theorem readRpcEvents_object (members : List (String × Json)) :
    readRpcEvents (.object members) = (fun event => [event]) <$> readItem (.object members) := by
  have unfolded : readRpcEvents (.object members) =
      Except.mapError (fun mismatch => Report.plain mismatch.message none)
        (do return [← RpcEvent.ofJson (Json.object members).normal]) := rfl
  rw [unfolded, readItem]
  cases RpcEvent.ofJson (Json.object members).normal <;> rfl

namespace EventCatalog

/-- The event that a record is decoded as, under a name if there is one. -/
def route (catalog : EventCatalog) (name : Option String) (record : EventRecord) :
    Except CatalogError DecodedEvent :=
  let routing : Routing Unit DecodedEvent := match name with
    | some name => catalog.decodeAs name .native record
    | none => catalog.decode .native record
  (routing.run ()).1

/-- What a batch has for one of its items. -/
def outputOf (catalog : EventCatalog) (name : Option String) (item : Json) :
    Except Report Json := do
  let event ← readItem item
  let record ← readRpcRecord event
  decodeRecord catalog name record

/-- An item has no output: it is no event, its parts are no record, the record is of no event that
is asked for, or a field of the event cannot be read. -/
inductive Fails (catalog : EventCatalog) (name : Option String) (item : Json) : Prop where
  | event {mismatch : Json.Mismatch} (refused : RpcEvent.ofJson item.normal = .error mismatch)
  | record {event : RpcEvent} {error : RecordError} (read : RpcEvent.ofJson item.normal = .ok event)
      (refused : EventRecord.ofRpcEvent event = .error error)
  | routing {event : RpcEvent} {record : EventRecord} {error : CatalogError}
      (read : RpcEvent.ofJson item.normal = .ok event)
      (recorded : EventRecord.ofRpcEvent event = .ok record)
      (refused : catalog.route name record = .error error)
  | field {event : RpcEvent} {record : EventRecord} {decoded : DecodedEvent} {field : String}
      {error : FieldError} (read : RpcEvent.ofJson item.normal = .ok event)
      (recorded : EventRecord.ofRpcEvent event = .ok record)
      (routed : catalog.route name record = .ok decoded) (declared : field ∈ decoded.fieldNames)
      (refused : ((DecodedEvent.get .native field).outcome decoded ()).1.1 = .error error)

/-- An event that a decoder gives keeps none of its fields yet. -/
theorem faithful_of_decodeWith {decoder : EventDecoder} {label : String} {record : EventRecord}
    {event : DecodedEvent} {before after : Unit}
    (decoded : (decodeWith decoder label .native record).run.run before = (.ok event, after)) :
    event.Faithful Value.decode := by
  obtain ⟨verdict, _, ran, finished⟩ := run_lift_bind_eq_ok_iff.mp decoded
  cases verdict with
  | error source => cases finished
  | ok found =>
      cases finished
      obtain ⟨_, _, -, shaped⟩ := run_bind_eq_ok_iff.mp ran
      obtain ⟨_, _, -, bound⟩ := run_bind_eq_ok_iff.mp shaped
      obtain ⟨raw, _, -, ⟨⟩⟩ := run_bind_eq_ok_iff.mp bound
      exact DecodedEvent.faithful_ofRaw Value.decode decoder.layout raw

theorem faithful_of_route {catalog : EventCatalog} {name : Option String} {record : EventRecord}
    {event : DecodedEvent} (routed : catalog.route name record = .ok event) :
    event.Faithful Value.decode := by
  cases name with
  | some name =>
      have ran : (catalog.decodeAs name .native record).run.run () = (.ok event, ()) :=
        Prod.ext routed rfl
      rw [decodeAs] at ran
      cases held : catalog.get? name with
      | none =>
          rw [held] at ran
          cases ran
      | some decoder =>
          rw [held] at ran
          exact faithful_of_decodeWith ran
  | none =>
      have ran : (catalog.decode .native record).run.run () = (.ok event, ()) :=
        Prod.ext routed rfl
      obtain ⟨found, _, -, finished⟩ := run_lift_bind_eq_ok_iff.mp ran
      cases found with
      | none =>
          obtain ⟨_, _, -, ⟨⟩⟩ := run_lift_bind_eq_ok_iff.mp finished
      | some decoder => exact faithful_of_decodeWith finished

/-! ### Items with an output -/

theorem decodeRecord_eq_bind (catalog : EventCatalog) (name : Option String)
    (record : EventRecord) :
    decodeRecord catalog name record = do
      let event ← (catalog.route name record).mapError CatalogError.report
      let fields ← ((DecodedEvent.toJson .native).outcome event ()).1.1.mapError FieldError.report
      return Json.ofMembers [("event", .string event.name), ("fields", fields)] := rfl

/-- An event that is decoded has an output just when each of its fields can be read. -/
theorem exists_fields_iff {event : DecodedEvent} (faithful : event.Faithful Value.decode) :
    (∃ fields, ((DecodedEvent.toJson .native).outcome event ()).1.1 = .ok fields) ↔
      ∀ field ∈ event.fieldNames, ∃ value,
        ((DecodedEvent.get .native field).outcome event ()).1.1 = .ok value := by
  have steady := ValueDecoder.steady_ofFunction (σ := Unit) Value.decode
  obtain ⟨_, _, whole, -⟩ := DecodedEvent.toJson_of_steady steady faithful ()
  have each (field : String) : ((DecodedEvent.get .native field).outcome event ()).1.1 =
      event.steadyValue Value.decode field := by
    obtain ⟨_, _, read, -⟩ := DecodedEvent.get_of_steady steady faithful field ()
    exact congrArg (·.1.1) read
  have object : ((DecodedEvent.toJson .native).outcome event ()).1.1 =
      Json.ofMembers <$> event.steadyMembers Value.decode event.fieldNames :=
    congrArg (·.1.1) whole
  simp only [each, object, map_eq_ok_iff, DecodedEvent.steadyMembers]
  constructor
  · rintro ⟨_, members, read, -⟩ field declared
    obtain ⟨member, here⟩ := exists_mapM_eq_ok_iff.mp ⟨members, read⟩ field declared
    obtain ⟨value, given, -⟩ := bind_eq_ok_iff.mp here
    exact ⟨value, given⟩
  · intro read
    obtain ⟨members, passed⟩ := exists_mapM_eq_ok_iff.mpr fun field declared => by
      obtain ⟨value, given⟩ := read field declared
      exact ⟨(field, value.toJson), bind_eq_ok_iff.mpr ⟨value, given, rfl⟩⟩
    exact ⟨_, members, passed, rfl⟩

theorem readItem_eq_ok_iff {item : Json} {event : RpcEvent} :
    readItem item = .ok event ↔ RpcEvent.ofJson item.normal = .ok event := mapError_eq_ok_iff

theorem readRpcRecord_eq_ok_iff {event : RpcEvent} {record : EventRecord} :
    readRpcRecord event = .ok record ↔ EventRecord.ofRpcEvent event = .ok record := by
  rw [readRpcRecord, withContext, mapError_eq_ok_iff, mapError_eq_ok_iff]

/-- The steps that lead to the output for an item. -/
theorem outputOf_eq_ok_iff {catalog : EventCatalog} {name : Option String} {item output : Json} :
    catalog.outputOf name item = .ok output ↔
      ∃ event record decoded fields, RpcEvent.ofJson item.normal = .ok event ∧
        EventRecord.ofRpcEvent event = .ok record ∧ catalog.route name record = .ok decoded ∧
        ((DecodedEvent.toJson .native).outcome decoded ()).1.1 = .ok fields ∧
        Json.ofMembers [("event", .string decoded.name), ("fields", fields)] = output := by
  simp only [outputOf, decodeRecord_eq_bind, bind_eq_ok_iff, readItem_eq_ok_iff,
    readRpcRecord_eq_ok_iff, mapError_eq_ok_iff]
  constructor
  · rintro ⟨event, read, record, recorded, decoded, routed, fields, given, ⟨⟩⟩
    exact ⟨event, record, decoded, fields, read, recorded, routed, given, rfl⟩
  · rintro ⟨event, record, decoded, fields, read, recorded, routed, given, rfl⟩
    exact ⟨event, read, record, recorded, decoded, routed, fields, given, rfl⟩

/-- An item has an output just when nothing about it fails. -/
theorem exists_outputOf_iff {catalog : EventCatalog} {name : Option String} {item : Json} :
    (∃ output, catalog.outputOf name item = .ok output) ↔ ¬ catalog.Fails name item := by
  constructor
  · rintro ⟨output, given⟩ fails
    obtain ⟨event, record, decoded, fields, read, recorded, routed, whole, -⟩ :=
      outputOf_eq_ok_iff.mp given
    cases fails with
    | event refused =>
        rw [read] at refused
        cases refused
    | record readHere refused =>
        obtain rfl := Except.ok.inj (read.symm.trans readHere)
        rw [recorded] at refused
        cases refused
    | routing readHere recordedHere refused =>
        obtain rfl := Except.ok.inj (read.symm.trans readHere)
        obtain rfl := Except.ok.inj (recorded.symm.trans recordedHere)
        rw [routed] at refused
        cases refused
    | field readHere recordedHere routedHere declared refused =>
        obtain rfl := Except.ok.inj (read.symm.trans readHere)
        obtain rfl := Except.ok.inj (recorded.symm.trans recordedHere)
        obtain rfl := Except.ok.inj (routed.symm.trans routedHere)
        obtain ⟨value, given⟩ :=
          (exists_fields_iff (faithful_of_route routed)).mp ⟨fields, whole⟩ _ declared
        rw [given] at refused
        cases refused
  · intro fine
    cases read : RpcEvent.ofJson item.normal with
    | error mismatch => exact absurd (.event read) fine
    | ok event =>
        cases recorded : EventRecord.ofRpcEvent event with
        | error error => exact absurd (.record read recorded) fine
        | ok record =>
            cases routed : catalog.route name record with
            | error error => exact absurd (.routing read recorded routed) fine
            | ok decoded =>
                have readable : ∀ field ∈ decoded.fieldNames, ∃ value,
                    ((DecodedEvent.get .native field).outcome decoded ()).1.1 = .ok value := by
                  intro field declared
                  cases given : ((DecodedEvent.get .native field).outcome decoded ()).1.1 with
                  | ok value => exact ⟨value, rfl⟩
                  | error error => exact absurd (.field read recorded routed declared given) fine
                obtain ⟨fields, whole⟩ :=
                  (exists_fields_iff (faithful_of_route routed)).mpr readable
                exact ⟨_, outputOf_eq_ok_iff.mpr
                  ⟨event, record, decoded, fields, read, recorded, routed, whole, rfl⟩⟩

end EventCatalog

/-! ### Runs -/

/-- A run that decodes events with a listing, as the event of a name if there is one.  Its arguments
ask for that, its logging is set up, the listing is loaded, and the file of events holds a text. -/
structure DecodingRun (listing : Listing) (name : Option String) where
  arguments : List String
  surroundings : Surroundings
  flags : LogFlags
  settings : LogSettings
  listingPath : String
  eventsPath : String
  text : String
  asked : readArguments arguments = .ok ⟨flags, .decode listingPath (.json eventsPath) name⟩
  configured : Invocation.settings ⟨flags, .decode listingPath (.json eventsPath) name⟩
    surroundings.environment surroundings.environmentFile = .ok settings
  opened : ∀ fault, setUpLogging surroundings settings ≠ .error (.file fault)
  loaded : loadListingFile listingPath ((surroundings.files listingPath).mapError
    FileFault.message) = .ok listing
  held : surroundings.files eventsPath = .ok (Utf8.encode text)

namespace DecodingRun

variable {listing : Listing} {name : Option String}

/-- What the run does. -/
def outcome (run : DecodingRun listing name) : Outcome :=
  runProgram run.arguments run.surroundings

/-- The command of the run. -/
def command (run : DecodingRun listing name) : Command :=
  .decode run.listingPath (.json run.eventsPath) name

/-- What the command of the run gives. -/
def result (run : DecodingRun listing name) : Except Report Json :=
  run.command.output run.surroundings.files (.ofListing listing)

/-- The run prints what its command prints, and ends as it does, with or without a log. -/
theorem outcome_of_command (run : DecodingRun listing name) :
    run.outcome.exitCode = (run.command.run run.surroundings.files run.settings).exitCode ∧
      run.outcome.output = (run.command.run run.surroundings.files run.settings).output := by
  rw [outcome, runProgram, run.asked]
  simp only [Invocation.run, run.configured]
  cases opened : setUpLogging run.surroundings run.settings with
  | ok done => exact ⟨rfl, rfl⟩
  | error fault =>
      cases fault with
      | directory fault => exact ⟨rfl, rfl⟩
      | file fault => exact absurd opened (run.opened fault)

/-- A run ends well, with what its command gives, or badly and without any output. -/
theorem outcome_cases (run : DecodingRun listing name) :
    (∃ json, run.result = .ok json ∧ run.outcome.exitCode = 0 ∧
        run.outcome.output = json.pretty ++ "\n") ∨
      (∃ report, run.result = .error report) ∧ run.outcome.exitCode = 1 ∧
        run.outcome.output = "" := by
  have performed : ∃ lines, run.command.perform run.surroundings.files =
      (run.result.map fun json => json.pretty ++ "\n", lines) := by
    rw [Command.perform, loadCatalog, command, Command.listing, run.loaded]
    exact ⟨_, rfl⟩
  obtain ⟨lines, performed⟩ := performed
  obtain ⟨exitCode, output⟩ := run.outcome_of_command
  rw [exitCode, output, Command.run, performed]
  cases given : run.result with
  | ok json => exact .inl ⟨json, rfl, rfl, rfl⟩
  | error report => exact .inr ⟨⟨report, rfl⟩, rfl, rfl⟩

/-- The passes that lead to what the command gives for the value that its text holds. -/
theorem result_eq_ok_iff {run : DecodingRun listing name} {value json : Json}
    (parsed : Json.parse run.text = .ok value) :
    run.result = .ok json ↔ ∃ events records outputs, readRpcEvents value = .ok events ∧
      events.mapM readRpcRecord = .ok records ∧
      records.mapM (decodeRecord (.ofListing listing) name) = .ok outputs ∧
      decodedOutput outputs = json := by
  have content : readText run.surroundings.files run.eventsPath = .ok run.text := by
    rw [readText, run.held]
    simp only [Utf8.decode_encode]
  simp only [result, command, Command.output, readRecords, withContext, bind_eq_ok_iff,
    map_eq_ok_iff, mapError_eq_ok_iff, content, Except.ok.injEq]
  constructor
  · rintro ⟨records, ⟨_, rfl, _, read, events, readAll, recorded⟩, outputs, decoded, shaped⟩
    obtain rfl := Except.ok.inj (parsed.symm.trans read)
    exact ⟨events, records, outputs, readAll, recorded, decoded, shaped⟩
  · rintro ⟨events, records, outputs, readAll, recorded, decoded, shaped⟩
    exact ⟨records, ⟨run.text, rfl, value, parsed, events, readAll, recorded⟩, outputs, decoded,
      shaped⟩

/-- A batch has one output for each item, in order. -/
theorem result_of_array {run : DecodingRun listing name} {items : List Json}
    (parsed : Json.parse run.text = .ok (.array items)) {json : Json} :
    run.result = .ok json ↔ ∃ outputs, List.Forall₂ (fun item output =>
        (EventCatalog.ofListing listing).outputOf name item = .ok output) items outputs ∧
      decodedOutput outputs = json := by
  have passes (outputs : List Json) :
      (items.mapM fun item => (EventCatalog.ofListing listing).outputOf name item) = .ok outputs ↔
        ∃ events, items.mapM readItem = .ok events ∧ ∃ records,
          events.mapM readRpcRecord = .ok records ∧
            records.mapM (decodeRecord (.ofListing listing) name) = .ok outputs := by
    simp only [EventCatalog.outputOf, ← mapM_mapM_eq_ok_iff]
  simp only [result_eq_ok_iff parsed, readRpcEvents_array, ← mapM_eq_ok_iff, passes]
  constructor
  · rintro ⟨events, records, outputs, read, recorded, decoded, shaped⟩
    exact ⟨outputs, ⟨events, read, records, recorded, decoded⟩, shaped⟩
  · rintro ⟨outputs, ⟨events, read, records, recorded, decoded⟩, shaped⟩
    exact ⟨events, records, outputs, read, recorded, decoded, shaped⟩

/-- An event alone has its own output. -/
theorem result_of_object {run : DecodingRun listing name} {members : List (String × Json)}
    (parsed : Json.parse run.text = .ok (.object members)) {json : Json} :
    run.result = .ok json ↔
      (EventCatalog.ofListing listing).outputOf name (.object members) = .ok json := by
  simp only [result_eq_ok_iff parsed, readRpcEvents_object, map_eq_ok_iff, EventCatalog.outputOf,
    bind_eq_ok_iff]
  constructor
  · rintro ⟨_, records, outputs, ⟨event, read, rfl⟩, recorded, decoded, shaped⟩
    rw [mapM_eq_ok_iff, List.forall₂_cons_left_iff] at recorded
    obtain ⟨record, others, here, behind, rfl⟩ := recorded
    cases behind
    rw [mapM_eq_ok_iff, List.forall₂_cons_left_iff] at decoded
    obtain ⟨output, others, given, behind, rfl⟩ := decoded
    cases behind
    exact ⟨event, read, record, here, by rw [given, ← shaped]; rfl⟩
  · rintro ⟨event, read, record, recorded, decoded⟩
    refine ⟨[event], [record], [json], ⟨event, read, rfl⟩, ?_, ?_, rfl⟩
    · exact mapM_eq_ok_iff.mpr (.cons recorded .nil)
    · exact mapM_eq_ok_iff.mpr (.cons decoded .nil)

theorem outcome_of_ok {run : DecodingRun listing name} {json : Json}
    (given : run.result = .ok json) :
    run.outcome.exitCode = 0 ∧ run.outcome.output = json.pretty ++ "\n" := by
  rcases run.outcome_cases with ⟨other, there, ended⟩ | ⟨⟨report, failed⟩, -⟩
  · obtain rfl := Except.ok.inj (given.symm.trans there)
    exact ended
  · rw [given] at failed
    cases failed

/-- A run ends well just when its command gives something. -/
theorem exitCode_eq_zero_iff {run : DecodingRun listing name} :
    run.outcome.exitCode = 0 ↔ ∃ json, run.result = .ok json := by
  constructor
  · intro ended
    rcases run.outcome_cases with ⟨json, given, -⟩ | ⟨-, failed, -⟩
    · exact ⟨json, given⟩
    · rw [ended] at failed
      cases failed
  · rintro ⟨json, given⟩
    exact (outcome_of_ok given).1

/-- A run that does not end well prints nothing. -/
theorem outcome_of_failed {run : DecodingRun listing name} (failed : run.outcome.exitCode ≠ 0) :
    run.outcome.exitCode = 1 ∧ run.outcome.output = "" := by
  rcases run.outcome_cases with ⟨json, -, ended, -⟩ | ⟨-, ended⟩
  · exact absurd ended failed
  · exact ended

/-- The run on an event alone gives what a batch has for the event. -/
theorem result_alone_iff {items : List Json} {runs : List (DecodingRun listing name)}
    (objects : ∀ item ∈ items, ∃ members, item = .object members)
    (alone : List.Forall₂ (fun item run => Json.parse run.text = .ok item) items runs) :
    List.Forall₂ (fun item run => ∀ output, run.result = .ok output ↔
      (EventCatalog.ofListing listing).outputOf name item = .ok output) items runs := by
  refine (List.forall₂_and_left _ _ |>.mpr ⟨objects, alone⟩).imp ?_
  rintro _ run ⟨⟨members, rfl⟩, parsed⟩ output
  exact result_of_object parsed

theorem outputs_alone_iff {items : List Json} {runs : List (DecodingRun listing name)}
    (agrees : List.Forall₂ (fun item run => ∀ output, run.result = .ok output ↔
      (EventCatalog.ofListing listing).outputOf name item = .ok output) items runs)
    {outputs : List Json} :
    List.Forall₂ (fun item output =>
        (EventCatalog.ofListing listing).outputOf name item = .ok output) items outputs ↔
      runs.mapM result = .ok outputs := by
  rw [mapM_eq_ok_iff]
  induction agrees generalizing outputs with
  | nil => simp only [List.forall₂_nil_left_iff]
  | cons here behind inductionHypothesis =>
      simp only [List.forall₂_cons_left_iff, here, inductionHypothesis]

/-- What a batch gives, from what the runs on its events alone give. -/
theorem result_of_alone {batch : DecodingRun listing name} {runs : List (DecodingRun listing name)}
    {items : List Json} (parsed : Json.parse batch.text = .ok (.array items))
    (objects : ∀ item ∈ items, ∃ members, item = .object members)
    (alone : List.Forall₂ (fun item run => Json.parse run.text = .ok item) items runs)
    {json : Json} :
    batch.result = .ok json ↔
      ∃ outputs, runs.mapM result = .ok outputs ∧ decodedOutput outputs = json := by
  simp only [result_of_array parsed, outputs_alone_iff (result_alone_iff objects alone)]

/-- How a batch relates to the runs on each of its events alone. -/
structure Pointwise (batch : DecodingRun listing name) (items : List Json)
    (runs : List (DecodingRun listing name)) : Prop where
  /-- It ends well just when all of them do. -/
  exits : batch.outcome.exitCode = 0 ↔ ∀ run ∈ runs, run.outcome.exitCode = 0
  /-- It then prints the array of what they print, or what the only one prints. -/
  prints : batch.outcome.exitCode = 0 → ∃ outputs : List Json,
    List.Forall₂ (fun run output => run.outcome.output = output.pretty ++ "\n") runs outputs ∧
      (∀ run, runs = [run] → batch.outcome.output = run.outcome.output) ∧
      (runs.length ≠ 1 → batch.outcome.output = (Json.array outputs).pretty ++ "\n")
  /-- Otherwise it fails and prints nothing. -/
  silent : batch.outcome.exitCode ≠ 0 → batch.outcome.exitCode = 1 ∧ batch.outcome.output = ""
  /-- It fails just when something about one of the events does. -/
  fails : batch.outcome.exitCode = 1 ↔
    ∃ item ∈ items, (EventCatalog.ofListing listing).Fails name item

/-- What comes out for several events, or for none. -/
theorem decodedOutput_of_length {outputs : List Json} (several : outputs.length ≠ 1) :
    decodedOutput outputs = .array outputs := by
  match outputs with
  | [] => rfl
  | [_] => exact absurd rfl several
  | _ :: _ :: _ => rfl

theorem exitCode_eq_one_iff {run : DecodingRun listing name} :
    run.outcome.exitCode = 1 ↔ ¬ ∃ json, run.result = .ok json := by
  rw [← exitCode_eq_zero_iff]
  constructor
  · intro failed ended
    rw [failed] at ended
    cases ended
  · exact fun failed => (outcome_of_failed failed).1

/-- A run on an array of objects, and runs on each of them alone. -/
theorem isPointwise {batch : DecodingRun listing name} {items : List Json}
    {runs : List (DecodingRun listing name)}
    (parsed : Json.parse batch.text = .ok (.array items))
    (objects : ∀ item ∈ items, ∃ members, item = .object members)
    (alone : List.Forall₂ (fun item run => Json.parse run.text = .ok item) items runs) :
    batch.Pointwise items runs where
  exits := by
    simp only [exitCode_eq_zero_iff, ← exists_mapM_eq_ok_iff, result_of_alone parsed objects alone]
    constructor
    · rintro ⟨_, outputs, passed, -⟩
      exact ⟨outputs, passed⟩
    · rintro ⟨outputs, passed⟩
      exact ⟨_, outputs, passed, rfl⟩
  prints := by
    intro ended
    obtain ⟨json, given⟩ := exitCode_eq_zero_iff.mp ended
    obtain ⟨outputs, passed, rfl⟩ := (result_of_alone parsed objects alone).mp given
    have each := mapM_eq_ok_iff.mp passed
    refine ⟨outputs, each.imp fun _ _ here => (outcome_of_ok here).2, ?_, ?_⟩
    · rintro run rfl
      obtain ⟨output, _, here, behind, rfl⟩ := List.forall₂_cons_left_iff.mp each
      cases behind
      rw [(outcome_of_ok given).2, (outcome_of_ok here).2]
      rfl
    · intro several
      rw [(outcome_of_ok given).2, decodedOutput_of_length (each.length_eq ▸ several)]
  silent := outcome_of_failed
  fails := by
    have fine : (∃ json, batch.result = .ok json) ↔
        ∀ item ∈ items, ¬ (EventCatalog.ofListing listing).Fails name item := by
      simp only [← EventCatalog.exists_outputOf_iff, ← exists_mapM_eq_ok_iff,
        result_of_array parsed, mapM_eq_ok_iff]
      constructor
      · rintro ⟨_, outputs, passed, -⟩
        exact ⟨outputs, passed⟩
      · rintro ⟨outputs, passed⟩
        exact ⟨_, outputs, passed, rfl⟩
    rw [exitCode_eq_one_iff, fine]
    simp only [not_forall, not_not, exists_prop]

/-- Decoding a batch of events gives what decoding each of them alone gives, and nothing at all as
soon as one of them fails.  The texts of the events make up the text of such a batch, as long as the
reader can open one container more than they have inside each other. -/
theorem pointwise {items : List Json} {runs : List (DecodingRun listing name)}
    (objects : ∀ item ∈ items, ∃ members, item = .object members)
    (alone : List.Forall₂ (fun item run => Json.parse run.text = .ok item) items runs) :
    (∀ batch : DecodingRun listing name, Json.parse batch.text = .ok (.array items) →
        batch.Pointwise items runs) ∧
      ((∀ item ∈ items, item.nesting ≤ 126) →
        Json.parse (Json.arrayText (runs.map text)) = .ok (.array items)) := by
  refine ⟨fun batch parsed => isPointwise parsed objects alone, fun fits => ?_⟩
  exact Json.parse_arrayText (List.forall₂_map_left_iff.mpr alone.flip) objects fits

private def pingListing : Listing := ⟨[.event ⟨[], [], [0x65], [], [], .singleValue⟩]⟩

private def pingListingText : String :=
  "[\x7b\"event_v0\":\x7b\"doc\":\"\",\"lib\":\"\",\"name\":\"e\",\"prefix_topics\":[]," ++
    "\"params\":[],\"data_format\":\"single_value\"\x7d\x7d]"

private theorem pingListing_loaded :
    loadListingFile "l" (.ok (Utf8.encode pingListingText)) = .ok pingListing := by
  have detected : ListingFormat.detect (Utf8.encode pingListingText) = .json := by cbv
  have parsed : Json.parseLoosely pingListingText = .ok (.array [.object [("event_v0", .object
      [("doc", .string ""), ("lib", .string ""), ("name", .string "e"),
        ("prefix_topics", .array []), ("params", .array []),
        ("data_format", .string "single_value")])]]) := by cbv
  rw [loadListingFile, detected, loadListing, Utf8.decode_encode]
  change loadJsonListing pingListingText = _
  rw [loadJsonListing, parsed]
  rfl

private def pingText : String :=
  "\x7b\"type\":\"\",\"ledger\":1,\"ledgerClosedAt\":\"\",\"contractId\":\"\",\"id\":\"\"," ++
    "\"topic\":[],\"value\":\"AAAAAQ==\"\x7d"

private def pingItem : Json :=
  .object [("type", .string ""), ("ledger", .int 1), ("ledgerClosedAt", .string ""),
    ("contractId", .string ""), ("id", .string ""), ("topic", .array []),
    ("value", .string "AAAAAQ==")]

private theorem pingItem_output : (EventCatalog.ofListing pingListing).outputOf none pingItem =
    .ok (Json.ofMembers [("event", .string "e"), ("fields", .object [])]) := by
  have read : RpcEvent.ofJson pingItem.normal =
      .ok ⟨"", 1, "", "", "", false, "", some [], some Value.void.toText⟩ := by rfl
  have sized : Value.void.Sized := by simp only [Value.Sized]
  have part : EventRecord.part Value.void.toText = .ok .void := by
    rw [EventRecord.part, Value.ofText_toText sized]
    rfl
  have recorded : EventRecord.ofRpcEvent
      ⟨"", 1, "", "", "", false, "", some [], some Value.void.toText⟩ = .ok ⟨[], .void⟩ := by
    simp only [EventRecord.ofRpcEvent, part]
    rfl
  exact EventCatalog.outputOf_eq_ok_iff.mpr ⟨_, _, _, _, read, recorded, rfl, rfl, rfl⟩

private theorem empty_fails : (EventCatalog.ofListing pingListing).Fails none (.object []) := by
  have refused : RpcEvent.ofJson (Json.object []).normal = .error (.missingField "type") := by cbv
  exact .event refused

private def pingRun (text : String) : DecodingRun pingListing none where
  arguments := ["decode", "l", "--event-json", "e"]
  surroundings :=
    { environment := ⟨[]⟩
      environmentFile := none
      files := fun path => .ok (Utf8.encode (if path = "l" then pingListingText else text))
      openLog := fun _ => .ok () }
  flags := .none
  settings := .standard
  listingPath := "l"
  eventsPath := "e"
  text := text
  asked := rfl
  configured := rfl
  opened := by
    intro fault failed
    cases failed
  loaded := pingListing_loaded
  held := rfl

private def pingsText : String := Json.arrayText [pingText, "\x7b\x7d"]

/-- An event that is decoded alone, and a batch of it and an object without members, which fails. -/
theorem pointwise_pings :
    (pingRun pingsText).Pointwise [pingItem, .object []] [pingRun pingText, pingRun "\x7b\x7d"] ∧
      (pingRun pingText).outcome.exitCode = 0 ∧ (pingRun pingsText).outcome.exitCode = 1 := by
  have objects : ∀ item ∈ [pingItem, .object []], ∃ members, item = .object members :=
    List.forall_mem_cons.mpr ⟨⟨_, rfl⟩, List.forall_mem_singleton.mpr ⟨_, rfl⟩⟩
  have first : Json.parse (pingRun pingText).text = .ok pingItem := by cbv
  have second : Json.parse (pingRun "\x7b\x7d").text = .ok (.object []) := by cbv
  obtain ⟨batches, together⟩ := pointwise objects (.cons first (.cons second .nil))
  have fits : ∀ item ∈ [pingItem, .object []], item.nesting ≤ 126 :=
    List.forall_mem_cons.mpr ⟨by decide, List.forall_mem_singleton.mpr (by decide)⟩
  have known := batches (pingRun pingsText) (together fits)
  refine ⟨known, ?_, ?_⟩
  · exact exitCode_eq_zero_iff.mpr ⟨_, (result_of_object first).mpr pingItem_output⟩
  · exact known.fails.mpr ⟨_, .tail _ (.head _), empty_fails⟩

end DecodingRun

end ContractEvents
