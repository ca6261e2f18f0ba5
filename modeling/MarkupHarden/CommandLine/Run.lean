import MarkupHarden.Charset.Markup
import MarkupHarden.CommandLine.Arguments
import MarkupHarden.CommandLine.Host
import MarkupHarden.CommandLine.LogFilter
import MarkupHarden.Harden.Engine

/-!
# Runs

A run reads markup from a file or from standard input, hardens it and writes
the result.  A run that is asked for in the wrong way ends with status 2, a run
that fails with status 1.
-/

namespace MarkupHarden.CommandLine

/-- The exit statuses. -/
inductive Status where
  | success
  | failure
  | misuse
  deriving DecidableEq, Repr

def Status.code : Status → UInt32
  | .success => 0
  | .failure => 1
  | .misuse => 2

/-- The options record of a file. -/
def readConfig (name : String) (bytes : List UInt8) :
    Except Fault Json.Members :=
  match String.fromUTF8? bytes.toByteArray with
  | none => .error (.file name .notText)
  | some text =>
      match Json.parse? text with
      | none => .error (.configUnparsable name)
      | some (.object members) => .ok members
      | some _ => .error (.configNotObject name)

/-- The record with the options of the command line, which win over its own. -/
def withFlags (invocation : Invocation) (record : Json.Members) :
    Json.Members :=
  let record :=
    if invocation.wholeDocument then record.insert "wholeDocument" (.bool true)
    else record
  let record :=
    match invocation.baseUrl with
    | some url => record.insert "baseUrl" (.string url)
    | none => record
  match invocation.rules with
  | some rules => record.insert "rules" (.object rules)
  | none => record

/-- The text that is written for a result; a tree is written with the tags of
its root. -/
def render : Hardened → String
  | .tree (some tree) => Html.outerHtml tree.document tree.root
  | .tree none => ""
  | result => result.markup?.getD ""

/-- Hardens decoded markup. -/
def hardenText (markup : String) (record : Json.Members) :
    Except Fault String :=
  (harden (.markup markup) (.object record)).value.map render

section

variable {m : Type → Type} [Monad m]

/-- The bytes of a named file or of standard input. -/
def readSource (host : Host m) : Option String → m (Except Fault (List UInt8))
  | some name => do
      let content ← host.readFile name
      return content.mapError (.file name)
  | none => do
      let content ← host.readInput
      return content.mapError fun fault => .reported .io fault.message

/-- The record of a named file, or an empty one. -/
def loadConfig (host : Host m) :
    Option String → m (Except Fault Json.Members)
  | none => return .ok []
  | some name => do
      match ← host.readFile name with
      | .error fault => return .error (.file name fault)
      | .ok bytes => return readConfig name bytes

/-- Writes a result to a named file or to standard output. -/
def writeResult (host : Host m) (output : Option String) (text : String) :
    m (Except Fault Unit) :=
  match output with
  | some name => do
      let written ← host.writeFile name text
      return written.mapError (.file name)
  | none => do
      host.writeOutput text
      return .ok ()

/-- Reads, hardens and writes. -/
def process (host : Host m) (invocation : Invocation) :
    ExceptT Fault m Unit := do
  let bytes ← ExceptT.mk (readSource host invocation.input)
  let markup := Charset.decodeMarkup bytes invocation.charset
  let record ← ExceptT.mk (loadConfig host invocation.config)
  let text ← ExceptT.mk (pure (hardenText markup (withFlags invocation record)))
  ExceptT.mk (writeResult host invocation.output text)

/-- Writes a complaint under the name of the program. -/
def complain (host : Host m) (message : String) : m Unit :=
  host.writeError ("pd-sanitize: " ++ message ++ "\n")

/-- Does what the arguments ask for.  The log filter, when there is one, is
checked after the arguments. -/
def run (host : Host m) (logFilter : Option String)
    (arguments : List String) : m Status := do
  match Command.read arguments with
  | .error fault =>
      complain host (fault.message ++ "\n\n" ++ usage)
      return .misuse
  | .ok .help =>
      host.writeOutput usage
      return .success
  | .ok (.run invocation) =>
      if logFilter.all LogFilter.isValid then
        match ← (process host invocation).run with
        | .ok () => return .success
        | .error fault =>
            complain host fault.text
            return .failure
      else
        complain host "invalid log filter"
        return .misuse

end

end MarkupHarden.CommandLine
