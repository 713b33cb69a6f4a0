/-
Module: ContractEvents.Report
Purpose: Errors with their causes: the chain that is printed, and the trace id that is shared.
Main exports: Report, Report.message, Report.source?, Report.chain, Report.traceId?
-/

namespace ContractEvents

/-!
An error is told level by level.  A context adds a message and details to its source; a listing
error is a context of a certain kind; a plain error has a message and perhaps a source.  Contexts
and listing errors carry a trace id.  A listing error keeps its source to itself: whoever walks the
sources finds none behind it.
-/

/-- Identifies the reports of one incident. -/
abbrev TraceId := Nat

/-- What a listing error is about. -/
inductive ListingErrorKind where
  | file
  | parse
deriving DecidableEq, Repr, Inhabited

/-- An error with its causes. -/
inductive Report where
  | context (text : String) (details : List (String × String)) (source : Option Report)
      (traceId : TraceId)
  | listing (kind : ListingErrorKind) (text : String) (details : List (String × String))
      (source : Option Report) (traceId : TraceId)
  | plain (text : String) (source : Option Report)
deriving Repr, Inhabited

namespace Report

/-- Puts a detail into a list sorted by key, in place of a detail of the same key. -/
def insertDetail (key value : String) : List (String × String) → List (String × String)
  | [] => [(key, value)]
  | (other, held) :: rest =>
      if key < other then (key, value) :: (other, held) :: rest
      else if key = other then (key, value) :: rest
      else (other, held) :: insertDetail key value rest

/-- The details of a list of pairs, of which the last one with a key stands. -/
def detailsOf (pairs : List (String × String)) : List (String × String) :=
  pairs.foldl (fun details (key, value) => insertDetail key value details) []

/-- A text followed by its details in brackets, if it has any. -/
def withDetails (text : String) (details : List (String × String)) : String :=
  if details.isEmpty then text
  else
    text ++ " [" ++ ", ".intercalate (details.map fun (key, value) => key ++ "=" ++ value) ++ "]"

/-- What the outermost level says. -/
def message : Report → String
  | .context text details _ _ => withDetails text details
  | .listing .file text details _ _ => "File error: " ++ withDetails text details
  | .listing .parse text details _ _ => "Parse error: " ++ withDetails text details
  | .plain text _ => text

/-- The source that a level shows. -/
def source? : Report → Option Report
  | .context _ _ source _ => source
  | .listing .. => none
  | .plain _ source => source

/-- The trace id of a level. -/
def traceId? : Report → Option TraceId
  | .context _ _ _ id => some id
  | .listing _ _ _ _ id => some id
  | .plain .. => none

/-- The messages of a report and of the sources it shows, outermost first. -/
def messages : Report → List String
  | .context text details none id => [(context text details none id).message]
  | .context text details (some source) id =>
      (context text details (some source) id).message :: source.messages
  | .listing kind text details source id => [(listing kind text details source id).message]
  | .plain text none => [text]
  | .plain text (some source) => text :: source.messages

/-- The printed chain. -/
def chain (report : Report) : String := "\n\tCaused by: ".intercalate report.messages

/-- The trace id of the first of at most `levels` levels that carries one. -/
def findTraceId : (levels : Nat) → Report → Option TraceId
  | 0, _ => none
  | levels + 1, .plain _ (some source) => source.findTraceId levels
  | _ + 1, report => report.traceId?

/-- How many levels of a source are searched for a trace id. -/
def traceDepth : Nat := 4

/-- The trace id of a new level: that of its source, or a fresh one. -/
def inheritTraceId (fresh : TraceId) (source : Option Report) : TraceId :=
  (source.bind (findTraceId traceDepth)).getD fresh

/-- A new context around a source. -/
def newContext (fresh : TraceId) (text : String) (source : Option Report)
    (details : List (String × String)) : Report :=
  .context text (detailsOf details) source (inheritTraceId fresh source)

/-- A new listing error around a source. -/
def newListing (fresh : TraceId) (kind : ListingErrorKind) (text : String)
    (source : Option Report) (details : List (String × String)) : Report :=
  .listing kind text (detailsOf details) source (inheritTraceId fresh source)

/-- Adds a detail to a context. -/
def withDetail (key value : String) : Report → Report
  | .context text details source id => .context text (insertDetail key value details) source id
  | other => other

/-- All levels, outermost first, those behind a listing error included. -/
def levels : Report → List Report
  | .context text details none id => [.context text details none id]
  | .context text details (some source) id =>
      .context text details (some source) id :: source.levels
  | .listing kind text details none id => [.listing kind text details none id]
  | .listing kind text details (some source) id =>
      .listing kind text details (some source) id :: source.levels
  | .plain text none => [.plain text none]
  | .plain text (some source) => .plain text (some source) :: source.levels

/-- For every level, outermost first, the position of the outermost one with the same trace id. -/
def traceSharing (report : Report) : List (Option Nat) :=
  let ids := report.levels.map traceId?
  ids.map fun id => id.map fun _ => ids.idxOf id

end Report

end ContractEvents
