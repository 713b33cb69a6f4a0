/-
Module: ContractEvents.Files.Path
Purpose: Paths as texts: their names, their ends, and what is put behind them.
Main exports: namesOf, chainOf, withoutIdleEnd, childPath
-/

namespace ContractEvents

/-!
Slashes part the names of a path.  The name `.` stays where it is, so at the end of a path it says
no more than a slash does.  In the middle it is kept: it counts when a path is too long.
-/

/-- The names of a path. -/
def namesOf (path : String) : List String := (path.splitOn "/").filter (· != "")

/-- The reversed names of the directories that lead to a path's directory.  A name that stays in its
directory is none of them. -/
def chainOf (path : String) : List String := ((namesOf path).filter (· != ".")).reverse

/-- Drops the slashes and the names `.` in front of a reversed path.  A slash that is all of it
stays, and so does a name that no slash parts from others. -/
def dropIdle : List Char → List Char
  | ['/'] => ['/']
  | '/' :: path => dropIdle path
  | '.' :: '/' :: path => dropIdle ('/' :: path)
  | path => path

/-- A path without the slashes and the names `.` at its end.  The root stays what it is. -/
def withoutIdleEnd (path : String) : String := String.ofList (dropIdle path.toList.reverse).reverse

/-- The path of a name in the directory of a path. -/
def childPath (directory name : String) : String :=
  if directory.endsWith "/" then directory ++ name else directory ++ "/" ++ name

end ContractEvents
