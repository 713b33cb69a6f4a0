/-
Module: ContractEvents.Files.Tree
Purpose: Files and directories, and what a path leads to among them.
Main exports: FileFault, makeChain, FileTree, FileTree.locate, FileTree.read?,
  FileTree.makeDirectories, FileTree.openPlace, FileTree.names
-/
import ContractEvents.Files.Path

namespace ContractEvents

/-- Why an operation on a path fails. -/
inductive FileFault where
  /-- Nothing is there. -/
  | missing
  /-- Something is there already. -/
  | exists
  /-- What should lead further is a file. -/
  | notDirectory
  /-- What should be read is a directory. -/
  | isDirectory
  /-- A name or the whole path is too long. -/
  | nameTooLong
  /-- The system refuses, and says why. -/
  | refused (reason : String)
deriving DecidableEq, Repr, Inhabited

/-- The fault in words. -/
def FileFault.message : FileFault → String
  | .missing => "No such file or directory (os error 2)"
  | .exists => "File exists (os error 17)"
  | .notDirectory => "Not a directory (os error 20)"
  | .isDirectory => "Is a directory (os error 21)"
  | .nameTooLong => "File name too long (os error 36)"
  | .refused reason => reason

/-!
A place is the list of names that leads to a file or a directory from the root.  A path is walked
name by name, and every name but the last must lead to a directory that is there, so `gone/..` leads
nowhere even though the two names cancel.
-/

/-- Makes the directory of the reversed names by `make`, and first those above it if they are not
there.  A fault does not count if there is a directory all the same. -/
def makeChain {m : Type → Type} [Monad m] (make : List String → m (Except FileFault Unit))
    (isDirectory : List String → m Bool) : List String → m (Except FileFault Unit)
  | [] => return .ok ()
  | name :: above => do
      let names := above.reverse ++ [name]
      let settled (fault : FileFault) : m (Except FileFault Unit) := do
        if ← isDirectory names then return .ok () else return .error fault
      match ← make names with
      | .ok () => return .ok ()
      | .error .missing =>
          match ← makeChain make isDirectory above with
          | .error fault => return .error fault
          | .ok () =>
              match ← make names with
              | .ok () => return .ok ()
              | .error fault => settled fault
      | .error fault => settled fault

/-- A place in a tree, as the names on the way from the root. -/
abbrev Place := List String

/-- What is at a place. -/
inductive FileNode (α : Type) where
  | file (content : α)
  | directory
deriving Repr, Inhabited

/-- Files with their contents, and directories: those that were made, and all those above a file, a
made directory or the current directory.  Nothing can be made in a directory that is closed. -/
structure FileTree (α : Type) where
  files : List (Place × α)
  made : List Place
  closed : List Place
  current : Place
deriving Repr, Inhabited

namespace FileTree

variable {α : Type}

/-- Is there a directory at a place? -/
def isDirectory (tree : FileTree α) (place : Place) : Bool :=
  (tree.current :: tree.made).any place.isPrefixOf ||
    tree.files.any fun file => file.1 != place && place.isPrefixOf file.1

/-- What is at a place. -/
def node? (tree : FileTree α) (place : Place) : Option (FileNode α) :=
  match tree.files.lookup place with
  | some content => some (.file content)
  | none => if tree.isDirectory place then some .directory else none

/-- The names in a directory, in no special order: the next name of every place below it. -/
def names (tree : FileTree α) (place : Place) : List String :=
  let below := (tree.current :: tree.made ++ tree.files.map (·.1)).filter place.isPrefixOf
  (below.filterMap fun other => other[place.length]?).eraseDups

/-- The place from which a path is walked. -/
def start (tree : FileTree α) (path : String) : Place :=
  if path.startsWith "/" then [] else tree.current

/-- The longest name, in bytes. -/
def maxName : Nat := 255

/-- The longest path, in bytes. -/
def maxPath : Nat := 4095

/-- Refuses a place at which there is no directory. -/
def checkDirectory (tree : FileTree α) (place : Place) : Except FileFault Unit :=
  match tree.node? place with
  | some .directory => .ok ()
  | some (.file _) => .error .notDirectory
  | none => .error .missing

/-- Walks from a directory by one name. -/
def step (tree : FileTree α) (place : Place) (name : String) : Except FileFault Place := do
  tree.checkDirectory place
  if name = "." then return place
  else if name = ".." then return place.dropLast
  else if maxName < name.utf8ByteSize then throw .nameTooLong
  else if (tree.node? (place ++ [name])).isNone then throw .missing
  else return place ++ [name]

/-- The place that a path leads to.  A slash at the end stands for a directory. -/
def locate (tree : FileTree α) (path : String) : Except FileFault Place := do
  if path.isEmpty then throw .missing
  if maxPath < path.utf8ByteSize then throw .nameTooLong
  let place ← (namesOf path).foldlM tree.step (tree.start path)
  if path.endsWith "/" then tree.checkDirectory place
  return place

/-- The content of the file at a path. -/
def read? (tree : FileTree α) (path : String) : Except FileFault α := do
  match tree.node? (← tree.locate path) with
  | some (.file content) => return content
  | some .directory => throw .isDirectory
  | none => throw .missing

/-- Puts a file at a place. -/
def insert (tree : FileTree α) (place : Place) (content : α) : FileTree α :=
  { tree with files := (place, content) :: tree.files }

/-- Makes the directory of some names, of which all but the last lead to one that is there. -/
def makeDirectory (tree : FileTree α) (start : Place) (names : List String) :
    Except FileFault (FileTree α) := do
  let name := names.getLastD ""
  let above ← names.dropLast.foldlM tree.step start
  tree.checkDirectory above
  if name = "." || name = ".." then throw .exists
  if maxName < name.utf8ByteSize then throw .nameTooLong
  if (tree.node? (above ++ [name])).isSome then throw .exists
  if tree.closed.contains above then throw .missing
  return { tree with made := (above ++ [name]) :: tree.made }

/-- Do names lead to a directory? -/
def leadsToDirectory (tree : FileTree α) (start : Place) (names : List String) : Bool :=
  match names.foldlM tree.step start with
  | .ok place => tree.isDirectory place
  | .error _ => false

/-- Makes a directory, if that is possible. -/
def tryMakeDirectory (start : Place) (names : List String) :
    StateM (FileTree α) (Except FileFault Unit) := fun tree =>
  match tree.makeDirectory start names with
  | .ok tree => (.ok (), tree)
  | .error fault => (.error fault, tree)

/-- Makes the directory of a path, and those above it.  Those made before a fault stay. -/
def makeDirectories (tree : FileTree α) (path : String) : Except FileFault Unit × FileTree α :=
  if maxPath < path.utf8ByteSize then (.error .nameTooLong, tree)
  else
    let start := tree.start path
    (makeChain (tryMakeDirectory start)
      (fun names => return (← get).leadsToDirectory start names) (chainOf path)).run tree

/-- The place of the file that opening a path to write to it gives.  One that is not there is made,
unless its directory is closed. -/
def openPlace (tree : FileTree α) (path : String) : Except FileFault Place := do
  if path.isEmpty then throw .missing
  if maxPath < path.utf8ByteSize then throw .nameTooLong
  let name := (namesOf path).getLastD "."
  let above ← (namesOf path).dropLast.foldlM tree.step (tree.start path)
  tree.checkDirectory above
  if name = "." || name = ".." || path.endsWith "/" then throw .isDirectory
  if maxName < name.utf8ByteSize then throw .nameTooLong
  match tree.node? (above ++ [name]) with
  | some .directory => throw .isDirectory
  | some (.file _) => return above ++ [name]
  | none => if tree.closed.contains above then throw .missing else return above ++ [name]

end FileTree

end ContractEvents
