/-
Module: ContractEvents.Program.Arguments
Purpose: The command line.
Main exports: Invocation, Command, Stop, readArguments
-/
import ContractEvents.Logging.Flags
import ContractEvents.Size.ByteSize

namespace ContractEvents

/-!
The arguments are options about logging, then a command with its own options.  Options of one level
are not accepted on the other.  A value follows its option as the next argument or behind an equals
sign, and only in the latter case may it start with a dash.  No option is given twice.
-/

/-- Where the events to decode come from. -/
inductive EventSource where
  /-- A ledger event in base64. -/
  | xdr (text : String)
  /-- The path of a file with one RPC event or a list of them. -/
  | json (path : String)
deriving DecidableEq, Repr, Inhabited

/-- What is to be done with a listing. -/
inductive Command where
  | events (listing : String)
  | decode (listing : String) (source : EventSource) (name : Option String)
deriving DecidableEq, Repr, Inhabited

/-- Arguments that can be carried out. -/
structure Invocation where
  flags : LogFlags
  command : Command
deriving DecidableEq, Repr

/-- What help is about. -/
inductive HelpTopic where
  | program
  | events
  | decode
  | help
deriving DecidableEq, Repr, Inhabited

/-- What is wrong with arguments. -/
inductive UsageFault where
  | noArguments
  | noCommand
  | unknownCommand (word : String)
  | unexpected (argument : String)
  | repeated (option : String)
  | noValue (option : String)
  | emptyPath (argument : String)
  | badSize (text : String) (fault : ByteSize.Fault)
  | missing (argument : String)
  | exclusive (one other : String)
deriving DecidableEq, Repr, Inhabited

/-- Why arguments lead to no command. -/
inductive Stop where
  | help (topic : HelpTopic)
  | version
  | usage (fault : UsageFault)
deriving DecidableEq, Repr, Inhabited

/-- Is the argument an option, or a group of short ones?  A lone dash is neither. -/
def isOption (argument : String) : Bool :=
  match argument.toList with
  | '-' :: _ :: _ => true
  | _ => false

/-- The name of an option, and the value behind its first equals sign. -/
def splitOption (argument : String) : String × Option String :=
  let cs := argument.toList
  let name := String.ofList (cs.takeWhile (· != '='))
  match cs.dropWhile (· != '=') with
  | [] => (name, none)
  | _ :: value => (name, some (String.ofList value))

/-- Does the argument ask for help? -/
def asksHelp (argument : String) : Bool :=
  argument == "--help" || "-h".toList.isPrefixOf argument.toList

/-- Does the argument ask for the version? -/
def asksVersion (argument : String) : Bool :=
  argument == "--version" || "-V".toList.isPrefixOf argument.toList

/-- A path may not be empty. -/
def readPath (argument path : String) : Except Stop String :=
  if path.isEmpty then .error (.usage (.emptyPath argument)) else .ok path

/-! The options about logging that take a value. -/

/-- An option that takes a value. -/
inductive LogOption where
  | level
  | directory
  | sizeLimit
deriving DecidableEq, Repr, Inhabited

namespace LogOption

/-- The name of an option. -/
def name : LogOption → String
  | .level => "--log-level"
  | .directory => "--log-path"
  | .sizeLimit => "--log-max-size"

/-- The option of a name. -/
def ofName? : String → Option LogOption
  | "--log-level" => some .level
  | "--log-path" => some .directory
  | "--log-max-size" => some .sizeLimit
  | _ => none

end LogOption

namespace LogFlags

/-- Enters the value of an option that has none yet. -/
def enter (flags : LogFlags) : LogOption → String → Except Stop LogFlags
  | .level, text =>
      if flags.level.isSome then .error (.usage (.repeated LogOption.level.name))
      else .ok { flags with level := some text }
  | .directory, text =>
      if flags.directory.isSome then .error (.usage (.repeated LogOption.directory.name))
      else .ok { flags with directory := some text }
  | .sizeLimit, text =>
      if flags.sizeLimit.isSome then .error (.usage (.repeated LogOption.sizeLimit.name))
      else
        match ByteSize.parse text with
        | .ok size => .ok { flags with sizeLimit := some size }
        | .error fault => .error (.usage (.badSize text fault))

/-- Enters the value that is waiting, if there is one. -/
def settle (flags : LogFlags) : Option (LogOption × String) → Except Stop LogFlags
  | .none => .ok flags
  | .some (option, text) => flags.enter option text

end LogFlags

/-! The commands. -/

/-- Reads the arguments of `events`.  Behind `--` nothing is an option. -/
def readEvents (listing : Option String) (onlyValues : Bool) :
    List String → Except Stop Command
  | [] =>
      match listing with
      | some path => .ok (.events path)
      | none => .error (.usage (.missing "<LISTING>"))
  | argument :: rest =>
      if !onlyValues && argument == "--" then readEvents listing true rest
      else if !onlyValues && isOption argument then
        .error (if asksHelp argument then .help .events else .usage (.unexpected argument))
      else if listing.isSome then .error (.usage (.unexpected argument))
      else
        match readPath "<LISTING>" argument with
        | .error stop => .error stop
        | .ok path => readEvents (some path) onlyValues rest

/-- What has been read of the arguments of `decode`. -/
structure DecodeArguments where
  listing : Option String
  xdr : Option String
  json : Option String
  name : Option String
deriving DecidableEq, Repr, Inhabited

/-- An option of `decode`. -/
inductive DecodeOption where
  | xdr
  | json
  | name
deriving DecidableEq, Repr, Inhabited

namespace DecodeOption

/-- The name of an option. -/
def text : DecodeOption → String
  | .xdr => "--event-xdr"
  | .json => "--event-json"
  | .name => "--name"

/-- The option of a name. -/
def ofName? : String → Option DecodeOption
  | "--event-xdr" => some .xdr
  | "--event-json" => some .json
  | "--name" => some .name
  | _ => none

end DecodeOption

namespace DecodeArguments

/-- Enters the value of an option that has none yet. -/
def enter (held : DecodeArguments) : DecodeOption → String → Except Stop DecodeArguments
  | .xdr, text =>
      if held.xdr.isSome then .error (.usage (.repeated DecodeOption.xdr.text))
      else .ok { held with xdr := some text }
  | .json, text =>
      if held.json.isSome then .error (.usage (.repeated DecodeOption.json.text))
      else
        match readPath DecodeOption.json.text text with
        | .ok path => .ok { held with json := some path }
        | .error stop => .error stop
  | .name, text =>
      if held.name.isSome then .error (.usage (.repeated DecodeOption.name.text))
      else .ok { held with name := some text }

/-- Enters an argument that is no option. -/
def enterListing (held : DecodeArguments) (argument : String) : Except Stop DecodeArguments :=
  if held.listing.isSome then .error (.usage (.unexpected argument))
  else
    match readPath "<LISTING>" argument with
    | .ok path => .ok { held with listing := some path }
    | .error stop => .error stop

/-- The command, if a listing and exactly one source of events are given. -/
def command (held : DecodeArguments) : Except Stop Command :=
  match held.listing, held.xdr, held.json with
  | _, some _, some _ =>
      .error (.usage (.exclusive DecodeOption.xdr.text DecodeOption.json.text))
  | none, _, _ => .error (.usage (.missing "<LISTING>"))
  | some _, none, none =>
      .error (.usage (.missing "<--event-xdr <BASE64>|--event-json <FILE>>"))
  | some listing, some text, none => .ok (.decode listing (.xdr text) held.name)
  | some listing, none, some path => .ok (.decode listing (.json path) held.name)

end DecodeArguments

/-- Reads the arguments of `decode`.  Behind `--` nothing is an option. -/
def readDecode (held : DecodeArguments) (onlyValues : Bool) : List String → Except Stop Command
  | [] => held.command
  | argument :: rest =>
      if !onlyValues && argument == "--" then readDecode held true rest
      else if !onlyValues && isOption argument then
        if asksHelp argument then .error (.help .decode)
        else
          match splitOption argument with
          | (name, attached) =>
              match DecodeOption.ofName? name with
              | none => .error (.usage (.unexpected argument))
              | some option =>
                  match attached, rest with
                  | some value, rest => do readDecode (← held.enter option value) onlyValues rest
                  | none, [] => .error (.usage (.noValue name))
                  | none, value :: rest =>
                      if isOption value then .error (.usage (.noValue name))
                      else do readDecode (← held.enter option value) onlyValues rest
      else do readDecode (← held.enterListing argument) onlyValues rest

/-- What `help` is asked about. -/
def readHelp (topic : HelpTopic) : List String → Stop
  | [] => .help topic
  | word :: rest =>
      match topic, word with
      | .program, "events" => readHelp .events rest
      | .program, "decode" => readHelp .decode rest
      | .program, "help" => readHelp .help rest
      | _, word => .usage (.unknownCommand word)

/-- Reads the options about logging and the command behind them.  The value of an option is looked
at when the next option, or the end of the arguments, shows that it is complete: help on a command
is given even if the value is bad. -/
def readInvocation (flags : LogFlags) (waiting : Option (LogOption × String)) :
    List String → Except Stop Invocation
  | [] => do
      let _ ← flags.settle waiting
      throw (.usage .noCommand)
  | argument :: rest =>
      match argument with
      | "events" => do
          let command ← readEvents none false rest
          return { flags := ← flags.settle waiting, command }
      | "decode" => do
          let command ← readDecode ⟨none, none, none, none⟩ false rest
          return { flags := ← flags.settle waiting, command }
      | "help" => .error (readHelp .program rest)
      | argument => do
          let flags ← flags.settle waiting
          if asksHelp argument then throw (.help .program)
          else if asksVersion argument then throw .version
          else if !isOption argument then throw (.usage (.unknownCommand argument))
          else if argument == "--log-file" then
            if flags.toFile then throw (.usage (.repeated argument))
            else readInvocation { flags with toFile := true } none rest
          else
            match splitOption argument with
            | (name, attached) =>
                match LogOption.ofName? name with
                | none => throw (.usage (.unexpected argument))
                | some option =>
                    match attached, rest with
                    | some value, rest => readInvocation (← flags.enter option value) none rest
                    | none, [] => throw (.usage (.noValue name))
                    | none, value :: rest =>
                        if isOption value then throw (.usage (.noValue name))
                        else readInvocation flags (some (option, value)) rest

/-- Reads the arguments of the program. -/
def readArguments (arguments : List String) : Except Stop Invocation :=
  if arguments.isEmpty then .error (.usage .noArguments)
  else readInvocation LogFlags.none none arguments

end ContractEvents
