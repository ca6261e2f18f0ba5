import MarkupHarden.Charset.Basic
import MarkupHarden.Json.Text

/-!
# Arguments

Arguments are read from left to right.  Five options take the next argument as
their value, whatever it looks like; of repeated options the last one counts.
A request for help wins over everything behind it.
-/

namespace MarkupHarden.CommandLine

/-- The arguments of a run. -/
structure Invocation where
  wholeDocument : Bool := false
  baseUrl : Option String := none
  rules : Option Json.Members := none
  config : Option String := none
  charset : Option Charset := none
  output : Option String := none
  verbose : Bool := false
  /-- The file to read; standard input without one. -/
  input : Option String := none
  deriving Repr

/-- What the arguments ask for. -/
inductive Command where
  | help
  | run (invocation : Invocation)
  deriving Repr

/-- Why arguments are refused. -/
inductive UsageFault where
  | missingValue (flag : String)
  | rulesNotJson
  | rulesNotObject
  | unknownCharset (label : String)
  | unknownOption (flag : String)
  | severalInputs
  deriving DecidableEq, Repr

def UsageFault.message : UsageFault → String
  | .missingValue flag => "missing value after " ++ flag
  | .rulesNotJson => "--rules is not valid JSON"
  | .rulesNotObject => "--rules expects a JSON object"
  | .unknownCharset label => s!"unknown charset `{label}`"
  | .unknownOption flag => s!"unknown option `{flag}`"
  | .severalInputs => "more than one input file given"

/-- The lines that explain the arguments. -/
def usageLines : List String :=
  [
    "usage: pd-sanitize [OPTIONS] [FILE]",
    "",
    "Hardens links and forms in HTML read from FILE (or stdin when FILE is",
    "absent or `-`) and writes the result to stdout.",
    "",
    "options:",
    "  --whole-document     keep and return the html/head/body wrapper",
    "  --base-url <url>     resolve relative href/action values against <url>",
    "  --rules <json>       rule table, e.g. " ++
      "'\x7b\"validateURI\":\x7b\"schemes\":[\"https\"]\x7d\x7d'",
    "  --config <file>      JSON options record; other flags override it",
    "  --charset <label>    input encoding " ++
      "(default: <meta charset> sniffing, then UTF-8)",
    "  --output <file>      write to <file> instead of stdout",
    "  --verbose            log at debug level unless PD_LOG/RUST_LOG is set",
    "  --help               print this text"
  ]

/-- The text that explains the arguments. -/
def usage : String :=
  String.join (usageLines.map (· ++ "\n"))

/-- The options that take a value. -/
inductive ValueOption where
  | baseUrl
  | config
  | output
  | rules
  | charset
  deriving DecidableEq, Repr

/-- What an argument is, apart from the value of an option. -/
inductive Argument where
  | help
  | wholeDocument
  | verbose
  | option (option : ValueOption)
  | standardInput
  | unknown
  | file
  deriving DecidableEq, Repr

def Argument.of (argument : String) : Argument :=
  match argument with
  | "-h" | "--help" => help
  | "--whole-document" => wholeDocument
  | "--verbose" | "-v" => verbose
  | "--base-url" => option .baseUrl
  | "--config" => option .config
  | "--output" | "-o" => option .output
  | "--rules" => option .rules
  | "--charset" => option .charset
  | "-" => standardInput
  | _ => if argument.toList.head? = some '-' then unknown else file

/-- The table of rules that a text holds. -/
def readRules (text : String) : Except UsageFault Json.Members :=
  match Json.parse? text with
  | none => .error .rulesNotJson
  | some (.object members) => .ok members
  | some _ => .error .rulesNotObject

def readCharset (label : String) : Except UsageFault Charset :=
  match Charset.ofLabel? (Text.trim label) with
  | some charset => .ok charset
  | none => .error (.unknownCharset label)

namespace Invocation

/-- Takes over the value of an option. -/
def store (invocation : Invocation) (option : ValueOption) (value : String) :
    Except UsageFault Invocation :=
  match option with
  | .baseUrl => .ok { invocation with baseUrl := some value }
  | .config => .ok { invocation with config := some value }
  | .output => .ok { invocation with output := some value }
  | .rules =>
      (readRules value).map fun rules =>
        { invocation with rules := some rules }
  | .charset =>
      (readCharset value).map fun charset =>
        { invocation with charset := some charset }

/-- Takes over the input, unless a file has been named before. -/
def storeInput (invocation : Invocation) (input : Option String) :
    Except UsageFault Invocation :=
  if invocation.input.isSome then .error .severalInputs
  else .ok { invocation with input }

end Invocation

namespace Command

/-- Reads the arguments that are left. -/
def readFrom (invocation : Invocation) :
    List String → Except UsageFault Command
  | [] => .ok (.run invocation)
  | argument :: rest =>
      match Argument.of argument, rest with
      | .help, _ => .ok .help
      | .wholeDocument, rest =>
          readFrom { invocation with wholeDocument := true } rest
      | .verbose, rest => readFrom { invocation with verbose := true } rest
      | .option _, [] => .error (.missingValue argument)
      | .option option, value :: rest =>
          match invocation.store option value with
          | .ok invocation => readFrom invocation rest
          | .error fault => .error fault
      | .standardInput, rest =>
          match invocation.storeInput none with
          | .ok invocation => readFrom invocation rest
          | .error fault => .error fault
      | .unknown, _ => .error (.unknownOption argument)
      | .file, rest =>
          match invocation.storeInput (some argument) with
          | .ok invocation => readFrom invocation rest
          | .error fault => .error fault

/-- Reads arguments, the name of the program not among them. -/
def read (arguments : List String) : Except UsageFault Command :=
  readFrom {} arguments

end Command

end MarkupHarden.CommandLine
