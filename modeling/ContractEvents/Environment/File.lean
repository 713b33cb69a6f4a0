/-
Module: ContractEvents.Environment.File
Purpose: Files that set environment variables.
Main exports: EnvironmentFile.assignments, EnvironmentFile.unstorable?,
  EnvironmentFile.references, Environment.load
-/
import ContractEvents.Environment.Basic
import ContractEvents.Text.Alphanumeric
import ContractEvents.Text.Blank
import ContractEvents.Text.Utf8

namespace ContractEvents.EnvironmentFile

/-!
A file has one assignment `NAME=value` on a line, perhaps behind the word `export`.  A value may be
quoted, and a quoted value may go on over several lines.  Single quotes keep everything as it is;
elsewhere a backslash escapes, and `$NAME` or `${NAME}` stands for the value that the variable has
at that point.  A `#` starts a comment at the start of a line or behind a blank.  Reading ends at
the first line that is no assignment; what stands before it counts.
-/

/-- Where in a line a reader is that looks for its end. -/
inductive LineState where
  | plain
  | blank
  | escape
  | single
  | singleEscape
  | double
  | doubleEscape
deriving DecidableEq, Repr, Inhabited

namespace LineState

/-- The state outside quotes behind a character that opens something or stands for itself. -/
def opened (c : Char) : LineState :=
  if c = '\\' then .escape
  else if c = '"' then .double
  else if c = '\'' then .single
  else .plain

/-- The state behind a character, unless it starts a comment. -/
def next? : LineState → Char → Option LineState
  | .blank, c => if c = '#' then none else some (opened c)
  | .plain, c =>
      if Text.isBlank c && c != '\n' && c != '\r' then some .blank else some (opened c)
  | .escape, _ => some .plain
  | .single, c => some (if c = '\\' then .singleEscape else if c = '\'' then .plain else .single)
  | .singleEscape, _ => some .single
  | .double, c => some (if c = '\\' then .doubleEscape else if c = '"' then .plain else .double)
  | .doubleEscape, _ => some .double

/-- The state behind a run of characters, unless a comment starts in it. -/
def after? (state : LineState) : List Char → Option LineState
  | [] => some state
  | c :: rest => (state.next? c).bind fun state => state.after? rest

/-- The characters in front of the comment that starts in a run. -/
def beforeComment (state : LineState) : List Char → List Char
  | [] => []
  | c :: rest =>
      match state.next? c with
      | none => []
      | some state => c :: state.beforeComment rest

end LineState

/-- The lines of a file as they stand, each with its line feed. -/
def physicalLines : Bytes → List Bytes
  | [] => []
  | b :: rest =>
      if b = 0x0A then [b] :: physicalLines rest
      else
        match physicalLines rest with
        | [] => [[b]]
        | line :: lines => (b :: line) :: lines

/-- The texts of the lines up to the first that is not UTF-8. -/
def readableLines : List Bytes → List (List Char)
  | [] => []
  | line :: lines =>
      match Utf8.decode line with
      | .ok text => text.toList :: readableLines lines
      | .error _ => []

/-- Joins the lines over which a quoted value goes on, and drops comments.  `held` is what has been
read of the current line; it is lost if the file ends in the middle of it. -/
def logicalLines (held : List Char) (state : LineState) : List (List Char) → List (List Char)
  | [] => []
  | line :: lines =>
      if ((held ++ line).dropWhile Text.isBlank).head? = some '#' then
        logicalLines [] .plain lines
      else
        match state.after? line with
        | none => (held ++ state.beforeComment line) :: logicalLines [] .plain lines
        | some .plain => (held ++ line) :: logicalLines [] .plain lines
        | some state => logicalLines (held ++ line) state lines

/-- Where in a value a reader is.  Outside single quotes it remembers whether double quotes are
open. -/
inductive ValueState where
  | plain (quoted : Bool)
  | single
  | escape (quoted : Bool)
  | name (quoted : Bool) (name : List Char)
  | bracedName (quoted : Bool) (name : List Char)
  | ended
deriving Repr, Inhabited

/-- What a character behind a backslash stands for. -/
def escaped? (c : Char) : Option Char :=
  if c = '\\' || c = '\'' || c = '"' || c = '$' || c = ' ' then some c
  else if c = 'n' then some '\n'
  else none

/-- The rest of a text behind a beginning that it has. -/
def behind? (beginning : List Char) (text : List Char) : Option (List Char) :=
  if beginning.isPrefixOf text then some (text.drop beginning.length) else none

/-- The value that a name stands for, if it stands for one.  Variables are sought in their spelling
`NAME=value`, so a name with an equals sign takes its end from the value. -/
def valueOf? (environment : Environment) (name : List Char) : Option (List Char) :=
  let proper := name.takeWhile (· != '=')
  (environment.get? (String.ofList proper)).bind fun value =>
    match name.drop proper.length with
    | [] => some value.toList
    | _ :: taken => behind? (taken ++ ['=']) value.toList

/-- The value that a name stands for, or nothing. -/
def substitute (environment : Environment) (name : List Char) : List Char :=
  (valueOf? environment name).getD []

/-- Reads a value.  The character that ends a name without braces stands for itself, even if it is a
quote. -/
def readValue (environment : Environment) : ValueState → List Char → Option (List Char)
  | .plain quoted, [] => if quoted then none else some []
  | .single, [] => none
  | .escape quoted, [] => if quoted then none else some []
  | .name quoted name, [] => if quoted then none else some (substitute environment name)
  | .bracedName _ _, [] => none
  | .ended, [] => some []
  | .plain quoted, c :: rest =>
      if c = '$' then readValue environment (.name quoted []) rest
      else if c = '\\' then readValue environment (.escape quoted) rest
      else if c = '"' then readValue environment (.plain !quoted) rest
      else if c = '\'' && !quoted then readValue environment .single rest
      else if (c = ' ' || c = '\t') && !quoted then readValue environment .ended rest
      else (c :: ·) <$> readValue environment (.plain quoted) rest
  | .single, c :: rest =>
      if c = '\'' then readValue environment (.plain false) rest
      else (c :: ·) <$> readValue environment .single rest
  | .escape quoted, c :: rest =>
      match escaped? c with
      | none => none
      | some c => (c :: ·) <$> readValue environment (.plain quoted) rest
  | .name quoted name, c :: rest =>
      if Text.isAlphanumeric c then readValue environment (.name quoted (name ++ [c])) rest
      else if c = '\x7b' && name.isEmpty then readValue environment (.bracedName quoted []) rest
      else
        let value := substitute environment name
        if c = '$' then (value ++ ·) <$> readValue environment (.name quoted []) rest
        else (value ++ c :: ·) <$> readValue environment (.plain quoted) rest
  | .bracedName quoted name, c :: rest =>
      if c = '\x7d' then
        (substitute environment name ++ ·) <$> readValue environment (.plain quoted) rest
      else readValue environment (.bracedName quoted (name ++ [c])) rest
  | .ended, c :: rest =>
      if c = ' ' || c = '\t' then readValue environment .ended rest
      else if c = '#' then some []
      else none

/-- Reads a name: an ASCII letter or an underscore, then letters, digits, underscores and points. -/
def readName (cs : List Char) : Option (String × List Char) :=
  let continues (c : Char) : Bool := c.isAlphanum || c == '_' || c == '.'
  match cs with
  | [] => none
  | c :: _ =>
      if c.isAlpha || c == '_' then
        some (String.ofList (cs.takeWhile continues), cs.dropWhile continues)
      else none

/-- Reads the name in front of the equals sign, and what follows the sign.  The word `export` may
stand in front, but may also be the name. -/
def readTarget (cs : List Char) : Option (String × List Char) := do
  let (first, rest) ← readName cs
  let rest := rest.dropWhile Text.isBlank
  match rest with
  | '=' :: rest => some (first, rest)
  | rest =>
      if first != "export" then none
      else
        let (name, rest) ← readName rest
        match rest.dropWhile Text.isBlank with
        | '=' :: rest => some (name, rest)
        | _ => none

/-- What a line says. -/
inductive LineContent where
  | nothing
  | assignment (name value : String)
deriving DecidableEq, Repr, Inhabited

/-- Is nothing left but a comment? -/
def isVoid : List Char → Bool
  | [] => true
  | c :: _ => c == '#'

/-- Reads a line, which may be blank. -/
def readLine (environment : Environment) (line : List Char) : Option LineContent := do
  let cs := Text.trimBlankChars line
  if isVoid cs then return .nothing
  let (name, rest) ← readTarget cs
  let rest := rest.dropWhile Text.isBlank
  if isVoid rest then return .assignment name ""
  let value ← readValue environment (.plain false) rest
  return .assignment name (String.ofList value)

/-- The assignments of lines in order.  Each is in force when the next line is read. -/
def assignmentsOf (environment : Environment) : List (List Char) → List (String × String)
  | [] => []
  | line :: lines =>
      match readLine environment line with
      | none => []
      | some .nothing => assignmentsOf environment lines
      | some (.assignment name value) =>
          (name, value) :: assignmentsOf (environment.set name value) lines

/-- The content of a file behind a byte order mark. -/
def withoutMark : Bytes → Bytes
  | 0xEF :: 0xBB :: 0xBF :: rest => rest
  | content => content

/-- The assignments that a file makes in an environment. -/
def assignments (environment : Environment) (content : Bytes) : List (String × String) :=
  assignmentsOf environment
    (logicalLines [] .plain (readableLines (physicalLines (withoutMark content))))

/-- A variable that a file assigns a value with a NUL, which no environment can hold. -/
def unstorable? (environment : Environment) (content : Bytes) : Option String :=
  ((assignments environment content).find? fun (_, value) => value.contains '\x00').map (·.1)

/-- The name at the start of a run of characters behind a dollar sign. -/
def referredName : List Char → String
  | '\x7b' :: rest => String.ofList (rest.takeWhile fun c => c != '\x7d' && c != '=')
  | rest => String.ofList (rest.takeWhile Text.isAlphanumeric)

/-- The names behind the dollar signs of a text. -/
def referencesIn : List Char → List String
  | [] => []
  | c :: rest => if c = '$' then referredName rest :: referencesIn rest else referencesIn rest

/-- All names of variables that the values of a file may depend on. -/
def references (content : Bytes) : List String :=
  (readableLines (physicalLines content)).flatMap referencesIn

end ContractEvents.EnvironmentFile

namespace ContractEvents

/-- The environment after a file has been read, if there is one: its assignments replace the values
that variables had. -/
def Environment.load (environment : Environment) (content : Option Bytes) : Environment :=
  match content with
  | none => environment
  | some content => environment.assign (EnvironmentFile.assignments environment content)

end ContractEvents
