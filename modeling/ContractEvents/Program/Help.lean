/-
Module: ContractEvents.Program.Help
Purpose: What the program says about itself and about arguments that it cannot use.
Main exports: programVersion, HelpTopic.text, UsageFault.message
-/
import ContractEvents.Program.Arguments

namespace ContractEvents

/-- The name of the program. -/
def programName : String := "soroban-event-decoder"

/-- The name of the program and its version. -/
def programVersion : String := programName ++ " 0.1.0"

/-- The help on a topic. -/
def HelpTopic.text : HelpTopic → String
  | .program =>
      "Decodes Soroban contract events using the event definitions published in the contract's " ++
      "interface.\n\nUsage: " ++ programName ++ " [OPTIONS] <COMMAND>\n\n" ++
      "Commands:\n" ++
      "  events  Print the events declared in a contract interface\n" ++
      "  decode  Decode a raw contract event\n" ++
      "  help    Print this message or the help of the given subcommand(s)\n\n" ++
      "Options:\n" ++
      "      --log-file             Write logs to file instead of the console\n" ++
      "      --log-level <LEVEL>    Set log level (trace, debug, info, warn, error)\n" ++
      "      --log-path <PATH>      Path to store log files (default: logs/)\n" ++
      "      --log-max-size <SIZE>  Maximum log file size before rolling " ++
      "(e.g., \"1GB\", \"500MB\", \"1024KB\")\n" ++
      "  -h, --help                 Print help\n" ++
      "  -V, --version              Print version\n"
  | .events =>
      "Print the events declared in a contract interface\n\n" ++
      "Usage: " ++ programName ++ " events <LISTING>\n\n" ++
      "Arguments:\n" ++
      "  <LISTING>  Compiled contract (.wasm), JSON spec entries, or base64 XDR entries\n\n" ++
      "Options:\n" ++
      "  -h, --help  Print help\n"
  | .decode =>
      "Decode a raw contract event\n\n" ++
      "Usage: " ++ programName ++
      " decode [OPTIONS] <--event-xdr <BASE64>|--event-json <FILE>> <LISTING>\n\n" ++
      "Arguments:\n" ++
      "  <LISTING>  Compiled contract (.wasm), JSON spec entries, or base64 XDR entries\n\n" ++
      "Options:\n" ++
      "      --event-xdr <BASE64>  Base64 XDR `ContractEvent`\n" ++
      "      --event-json <FILE>   RPC `getEvents` entry, or an array of them, as JSON\n" ++
      "      --name <EVENT>        Decode as this event instead of matching on topics\n" ++
      "  -h, --help                Print help\n"
  | .help =>
      "Print this message or the help of the given subcommand(s)\n\n" ++
      "Usage: " ++ programName ++ " help [COMMAND]...\n\n" ++
      "Arguments:\n" ++
      "  [COMMAND]...  Print help for the subcommand(s)\n"

/-- What is wrong with arguments, in words. -/
def UsageFault.message : UsageFault → String
  | .noArguments => HelpTopic.program.text
  | .noCommand => "error: a command is required\n"
  | .unknownCommand word => "error: unrecognized subcommand '" ++ word ++ "'\n"
  | .unexpected argument => "error: unexpected argument '" ++ argument ++ "' found\n"
  | .repeated option => "error: the argument '" ++ option ++ "' cannot be used multiple times\n"
  | .noValue option => "error: a value is required for '" ++ option ++ "'\n"
  | .emptyPath argument => "error: the value of '" ++ argument ++ "' must not be empty\n"
  | .badSize text fault =>
      "error: invalid value '" ++ text ++ "' for '--log-max-size <SIZE>': " ++
        ByteSize.refusal text fault ++ "\n"
  | .missing argument => "error: required arguments were not provided: " ++ argument ++ "\n"
  | .exclusive one other =>
      "error: the argument '" ++ one ++ "' cannot be used with '" ++ other ++ "'\n"

end ContractEvents
