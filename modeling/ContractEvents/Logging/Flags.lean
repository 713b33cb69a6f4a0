/-
Module: ContractEvents.Logging.Flags
Purpose: Log settings from the environment, an environment file and the command line.
Main exports: LogFlags, LogFlags.apply, resolveSettings
-/
import ContractEvents.Environment.File
import ContractEvents.Logging.Settings

namespace ContractEvents

/-!
Three places decide about logging.  The assignments of an environment file replace what the
environment holds, and the options of the command line replace both.  A level comes from `RUST_LOG`
before it comes from `LOG_LEVEL`.
-/

/-- What the logging options ask for. -/
structure LogFlags where
  toFile : Bool
  level : Option String
  directory : Option String
  sizeLimit : Option UInt64
deriving DecidableEq, Repr, Inhabited

/-- No logging options. -/
def LogFlags.none : LogFlags := ⟨false, .none, .none, .none⟩

/-- Sets a variable, if there is a value for it. -/
def Environment.setSome (environment : Environment) (name : String) :
    Option String → Environment
  | none => environment
  | some value => environment.set name value

/-- The environment in which the options are in force. -/
def LogFlags.apply (flags : LogFlags) (environment : Environment) : Environment :=
  let environment := if flags.toFile then environment.set "LOG_MODE" "file" else environment
  let environment := environment.setSome "LOG_LEVEL" (environment.get? "RUST_LOG")
  let environment := environment.setSome "LOG_LEVEL" flags.level
  let environment := environment.setSome "RUST_LOG" flags.level
  let environment := environment.setSome "LOG_DATA_DIR" flags.directory
  environment.setSome "LOG_MAX_SIZE" (flags.sizeLimit.map fun limit => toString limit.toNat)

/-- The settings of a run. -/
def resolveSettings (environment : Environment) (file : Option Bytes) (flags : LogFlags) :
    Except LogSettingsFault LogSettings :=
  LogSettings.ofEnvironment (flags.apply (environment.load file))

end ContractEvents
