/-
Module: ContractEvents.Logging.Rolling
Purpose: Which of the numbered log files of a day takes the next lines.
Main exports: rolledPath, FileSizes, rollBySize, rollingPaths
-/

namespace ContractEvents

/-- The text without an ending, if it has that ending. -/
def withoutEnding (ending text : String) : String :=
  if ending.toList.isSuffixOf text.toList then
    String.ofList (text.toList.take (text.toList.length - ending.toList.length))
  else text

/-- The path of a day's log file: `logs/decoder.log` becomes `logs/decoder-DATE.INDEX.log`. -/
def rolledPath (base date : String) (index : UInt32) : String :=
  withoutEnding ".log" base ++ "-" ++ date ++ "." ++ toString index.toNat ++ ".log"

/-- The files that exist, with their sizes. -/
abbrev FileSizes := List (String × Nat)

/-- Does a file take more lines?  One that does not exist does, and one that is not larger than the
limit. -/
def hasRoom (files : FileSizes) (limit : UInt64) (path : String) : Bool :=
  match files.lookup path with
  | none => true
  | some size => size ≤ limit.toNat

/-- The first path with room from an index on.  Different indices have different paths, so one of
them has room at the latest when there have been more of them than files: that is the fuel. -/
def firstWithRoom (files : FileSizes) (limit : UInt64) (base date : String) :
    (fuel : Nat) → UInt32 → String
  | 0, index => rolledPath base date index
  | fuel + 1, index =>
      if hasRoom files limit (rolledPath base date index) then rolledPath base date index
      else firstWithRoom files limit base date fuel (index + 1)

/-- The path that takes the next lines: the start, if it has room, or else the first path with room
from index 2 on. -/
def rollBySize (files : FileSizes) (start base date : String) (limit : UInt64) : String :=
  if hasRoom files limit start then start
  else firstWithRoom files limit base date files.length 2

/-- The paths that rolling may look at while at most `count` of them are taken. -/
def rollingPaths (start base date : String) (count : Nat) : List String :=
  start :: (List.range count).map fun i => rolledPath base date (UInt32.ofNat (i + 2))

end ContractEvents
