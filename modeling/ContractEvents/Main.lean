/-
Module: ContractEvents.Main
Purpose: The program: it reads what a run needs, runs, and writes what the run gave.
Main exports: main
-/
import ContractEvents.Program.Run
import Std.Time.Format

namespace ContractEvents

/-- The fault of an error number, which some operations give with a minus sign. -/
def faultOfCode (code : UInt32) (details : String) : FileFault :=
  match (if 0x80000000 ≤ code then 0 - code else code).toNat with
  | 2 => .missing
  | 17 => .exists
  | 20 => .notDirectory
  | 21 => .isDirectory
  | 36 => .nameTooLong
  | number => .refused s!"{details} (os error {number})"

/-- Why a file operation failed. -/
def faultOf : IO.Error → FileFault
  | .noFileOrDirectory .. => .missing
  | .alreadyExists .. => .exists
  | .inappropriateType _ code details => faultOfCode code details
  | .invalidArgument _ code details => faultOfCode code details
  | .permissionDenied _ code _ => faultOfCode code "Permission denied"
  | other => .refused (toString other)

/-- What an operation gave, or why it failed. -/
def attempt {α : Type} (operation : IO α) : IO (Except FileFault α) := do
  try return .ok (← operation)
  catch failure => return .error (faultOf failure)

/-- The content of a file, or the reason why it cannot be read. -/
def readBytes (path : String) : IO (Except FileFault Bytes) :=
  attempt do return (← IO.FS.readBinFile path).toList

/-- The directories in which an environment file is looked for: the current one and those above
it. -/
def searchedDirectories : IO (List String) := do
  let parts := (toString (← IO.currentDir)).splitOn "/"
  return (List.range parts.length).reverse.map fun n => "/".intercalate (parts.take (n + 1))

/-- The first environment file among directories. -/
def findEnvironmentFile : List String → IO (Option Bytes)
  | [] => return none
  | directory :: directories => do
      match ← readBytes (directory ++ "/.env") with
      | .ok content => return some content
      | .error _ => findEnvironmentFile directories

/-- The variables that a run may look at. -/
def readEnvironment (file : Option Bytes) : IO Environment := do
  let names := ["LOG_MODE", "LOG_LEVEL", "LOG_DATA_DIR", "LOG_MAX_SIZE", "RUST_LOG"] ++
    (file.map EnvironmentFile.references).getD []
  let bindings ← names.filterMapM fun name => do
    return (← IO.getEnv name).map fun value => (name, value)
  return ⟨bindings⟩

/-- The files that arguments name, with what reading them gave. -/
def readFiles (arguments : List String) : IO Files := do
  let paths := match readArguments arguments with
    | .ok invocation => invocation.command.paths
    | .error _ => []
  let contents ← paths.mapM fun path => return (path, ← readBytes path)
  return fun path => (contents.lookup path).getD (.error .missing)

/-- Makes the directory of a path, and those above it. -/
def makeDirectories (path : String) : IO (Except FileFault Unit) :=
  let pathOf (names : List String) : String :=
    (if path.startsWith "/" then "/" else "") ++ "/".intercalate names
  let isDirectory (names : List String) : IO Bool := do
    let found ← attempt do (← IO.FS.realPath (pathOf names)).isDir
    return found.toOption == some true
  makeChain (fun names => attempt (IO.FS.createDir (pathOf names))) isDirectory (chainOf path)

/-- The paths at which there are files, with their sizes. -/
def readSizes (paths : List String) : IO FileSizes :=
  paths.filterMapM fun (path : String) => do
    match ← attempt do (← IO.FS.realPath path).metadata with
    | .ok found => return some (path, found.byteSize.toNat)
    | .error _ => return none

/-- Opens the log file that takes the next lines, in a directory that is there. -/
def openLogFile (settings : LogSettings) : IO (Except FileFault IO.FS.Handle) := attempt do
  let today := toString (Std.Time.PlainDate.ofEpochDay
    (← Std.Time.Timestamp.now).toDaysSinceUnixEpoch)
  let entries ← (← IO.FS.realPath settings.directoryPath).readDir
  let sizes ← readSizes (settings.destinations today entries.size)
  IO.FS.Handle.mk (settings.openedPath today sizes) .append

/-- Opens the log that a run will write, if it goes to a file.  Its directory is made first. -/
def prepareLog : Option LogSettings → IO (Except LogFault (Option IO.FS.Handle))
  | none => return .ok none
  | some settings =>
      match settings.mode with
      | .stdout => return .ok none
      | .file => do
          match ← makeDirectories settings.directoryPath with
          | .error fault => return .error (.directory fault)
          | .ok () =>
              return ((← openLogFile settings).map some).mapError LogFault.file

/-- A line as it is logged. -/
def LogLine.render (line : LogLine) : IO String := do
  let now := Std.Time.DateTime.ofTimestamp (← Std.Time.Timestamp.now) .UTC
  return now.toISO8601String ++ " " ++ line.level.name ++ " " ++ line.text ++ "\n"

/-- Writes a log to its file, or to the standard errors if it has none. -/
def LogOutput.write (log : LogOutput) (file : Option IO.FS.Handle) : IO Unit := do
  for line in log.lines do
    match file with
    | some file => file.putStr (← line.render)
    | none => IO.eprint (← line.render)

/-- Runs the program on its arguments. -/
def runMain (arguments : List String) : IO UInt32 := do
  let environmentFile ← findEnvironmentFile (← searchedDirectories)
  let environment ← readEnvironment environmentFile
  let prepared ← prepareLog (plannedLog arguments environment environmentFile)
  let files ← readFiles arguments
  let outcome := runProgram arguments
    { environment, environmentFile, files, openLog := fun _ => prepared.map fun _ => () }
  if let some log := outcome.log then log.write prepared.toOption.join
  IO.print outcome.output
  IO.eprint outcome.errors
  return outcome.exitCode

end ContractEvents

/-- The entry point. -/
def main (arguments : List String) : IO UInt32 := ContractEvents.runMain arguments
