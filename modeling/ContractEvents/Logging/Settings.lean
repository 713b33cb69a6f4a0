/-
Module: ContractEvents.Logging.Settings
Purpose: Where log lines go, from the environment.
Main exports: LogMode, LogLevel, LogSettings, LogSettings.ofEnvironment
-/
import ContractEvents.Environment.Basic
import ContractEvents.Files.Path

namespace ContractEvents

/-!
Four variables decide about logging: `LOG_MODE`, `LOG_LEVEL`, `LOG_DATA_DIR` and `LOG_MAX_SIZE`.
A mode or a level that is not known counts as the default.  A size that is no number does not: it is
the one mistake that settings can have.
-/

/-- Where log lines go. -/
inductive LogMode where
  | stdout
  | file
deriving DecidableEq, Repr, Inhabited

/-- How weighty a log line is, least first. -/
inductive LogLevel where
  | trace
  | debug
  | info
  | warn
  | error
deriving DecidableEq, Repr, Inhabited

/-- The name of a mode. -/
def LogMode.name : LogMode → String
  | .stdout => "Stdout"
  | .file => "File"

/-- The mode of a text: a file if it says so, in letters of either case. -/
def LogMode.ofText (text : String) : LogMode :=
  if text.toLower = "file" then .file else .stdout

namespace LogLevel

/-- The name of a level. -/
def name : LogLevel → String
  | .trace => "TRACE"
  | .debug => "DEBUG"
  | .info => "INFO"
  | .warn => "WARN"
  | .error => "ERROR"

/-- The rank of a level. -/
def rank : LogLevel → Nat
  | .trace => 0
  | .debug => 1
  | .info => 2
  | .warn => 3
  | .error => 4

/-- Are lines of the level `line` kept at the level `threshold`? -/
def admits (threshold line : LogLevel) : Bool := threshold.rank ≤ line.rank

/-- The level of a text, in letters of either case.  No letter outside ASCII has one of these names'
letters as its lower case, so the ASCII rule is the whole rule. -/
def ofText (text : String) : LogLevel :=
  match text.toLower with
  | "trace" => .trace
  | "debug" => .debug
  | "warn" => .warn
  | "error" => .error
  | _ => .info

end LogLevel

/-- Where and how lines are logged. -/
structure LogSettings where
  mode : LogMode
  level : LogLevel
  directory : String
  sizeLimit : UInt64
deriving DecidableEq, Repr

/-- Why there are no settings: the size limit is no number of 64 bits. -/
structure LogSettingsFault where
  text : String
deriving DecidableEq, Repr, Inhabited

/-- The fault in words. -/
def LogSettingsFault.message (fault : LogSettingsFault) : String :=
  "LOG_MAX_SIZE must be a valid u64 if set, got '" ++ fault.text ++ "'"

/-- The number that decimal digits write, if all characters are digits. -/
def decimalValue? (value : Nat) : List Char → Option Nat
  | [] => some value
  | c :: rest =>
      if c.isDigit then decimalValue? (value * 10 + (c.toNat - '0'.toNat)) rest else none

/-- Reads a number of 64 bits: decimal digits, at least one, perhaps behind a plus sign. -/
def readLong? (text : String) : Option UInt64 :=
  let digits := match text.toList with
    | '+' :: rest => rest
    | cs => cs
  if digits.isEmpty then none
  else
    (decimalValue? 0 digits).bind fun n =>
      if n < 0x10000000000000000 then some (UInt64.ofNat n) else none

namespace LogSettings

/-- What holds if no variable is set. -/
def standard : LogSettings := ⟨.stdout, .info, "logs/", 1073741824⟩

instance : Inhabited LogSettings := ⟨standard⟩

/-- The settings of an environment. -/
def ofEnvironment (environment : Environment) : Except LogSettingsFault LogSettings := do
  let mode := ((environment.get? "LOG_MODE").map LogMode.ofText).getD standard.mode
  let level := ((environment.get? "LOG_LEVEL").map LogLevel.ofText).getD standard.level
  let directory := (environment.get? "LOG_DATA_DIR").getD standard.directory
  let sizeLimit ← match environment.get? "LOG_MAX_SIZE" with
    | none => .ok standard.sizeLimit
    | some text =>
        match readLong? text with
        | some limit => .ok limit
        | none => .error ⟨text⟩
  return { mode, level, directory, sizeLimit }

/-- The directory without the slashes at its end; nothing is left of the root directory. -/
def trimmedDirectory (settings : LogSettings) : String :=
  String.ofList (settings.directory.toList.reverse.dropWhile (· == '/')).reverse

/-- The path of the directory that holds the log files. -/
def directoryPath (settings : LogSettings) : String := withoutIdleEnd (settings.directory ++ "/")

/-- The path from which the paths of the log files are made. -/
def basePath (settings : LogSettings) : String := settings.trimmedDirectory ++ "/decoder.log"

end LogSettings

end ContractEvents
