/-
Module: ContractEvents.Logging.Destination
Purpose: The file that a day's log lines go to.
Main exports: LogSettings.destination, LogSettings.destinations, LogSettings.openedPath
-/
import ContractEvents.Logging.Rolling
import ContractEvents.Logging.Settings

namespace ContractEvents

/-- The path that takes the next lines of a day: the day's first file that has room, given the files
that exist with their sizes. -/
def LogSettings.destination (settings : LogSettings) (date : String) (files : FileSizes) :
    String :=
  rollBySize files (rolledPath settings.basePath date 1) settings.basePath date
    settings.sizeLimit

/-- The paths that may take the next lines of a day, if at most `count` files are in the way. -/
def LogSettings.destinations (settings : LogSettings) (date : String) (count : Nat) :
    List String :=
  rollingPaths (rolledPath settings.basePath date 1) settings.basePath date count

/-- The path at which the file of a day's next lines is opened: its name, in the directory of the
log files. -/
def LogSettings.openedPath (settings : LogSettings) (date : String) (files : FileSizes) : String :=
  childPath settings.directoryPath ((namesOf (settings.destination date files)).getLastD "")

end ContractEvents
