import MarkupHarden.Harden.Environment
import MarkupHarden.Harden.Result
import MarkupHarden.Harden.Traversal

/-!
# The engine

An engine checks its input, builds a working tree, applies the rules to every
element of it once and hands over the result.  Markup without `<` holds no
element that a rule could change and is handed back as it is, unless a tree or
a whole document is asked for.
-/

namespace MarkupHarden

/-- Hardens input with a parser and a serializer in an environment. -/
structure Engine where
  environment : Environment := .detected
  parser : Html.MarkupParser := Html.HtmlParser.toMarkupParser {}
  serializer : Html.MarkupSerializer := Html.htmlSerializer

namespace Engine

/-- Whether markup is handed back without parsing it. -/
def isPlainText (options : Options) (markup : String) : Bool :=
  !options.wholeDocument && !options.returnTree && !markup.toList.contains '<'

/-- The text that a host that cannot parse hands back instead of the input. -/
def textOf? : Input → Source → Option String
  | .value (.string _), _ => none
  | .value _, .markup text => some text
  | _, _ => none

/-- The result on a host that cannot parse safely. -/
def withoutParsing (engine : Engine) (input : Input) (source : Source) :
    Hardened :=
  match engine.environment.staticForm with
  | some staticForm => .markup (staticForm (source.toMarkup engine.serializer))
  | none =>
      match textOf? input source with
      | some text => .markup text
      | none => .untouched input

/-- Applies the rules to a working tree and hands it over. -/
def finish (engine : Engine) (options : Options) (working : WorkingTree) :
    Logged (Except Fault Hardened) :=
  let outcome :=
    working.document.traverse working.root options.rules options.ruleContext
  match outcome.result with
  | .error fault => { value := .error fault, events := outcome.events }
  | .ok report =>
      { value :=
          .ok (.ofTree engine.serializer options
            (some { working with document := outcome.document }))
        events :=
          outcome.events ++
            [.treeHardened report.visited report.elements
              report.ruleApplications] }

/-- The result on a host that parses safely. -/
def withParsing (engine : Engine) (options : Options) :
    Source → Logged (Except Fault Hardened)
  | .markup text =>
      if isPlainText options text then do
        Logged.report (.nothingToHarden text.utf8ByteSize)
        pure (.ok (.markup text))
      else do
        let working ←
          WorkingTree.ofMarkup? engine.parser text options.wholeDocument
        match working with
        | none => pure (.ok (.ofTree engine.serializer options none))
        | some working => engine.finish options working
  | .node document id =>
      match WorkingTree.ofNode document id options.wholeDocument with
      | .error fault => pure (.error fault)
      | .ok working => engine.finish options working

/-- Hardens input with options that have been read. -/
def hardenWith (engine : Engine) (input : Input) (options : Options) :
    Logged (Except Fault Hardened) :=
  match Source.ofInput input with
  | .error fault => pure (.error fault)
  | .ok source =>
      if engine.environment.canParseSafely then
        engine.withParsing options source
      else pure (.ok (engine.withoutParsing input source))

/-- Hardens input with the options that a JSON value stands for. -/
def harden (engine : Engine) (input : Input) (config : Json) :
    Logged (Except Fault Hardened) := do
  let options ← Options.resolve config
  engine.hardenWith input options

end Engine

/-- Hardens input with the bundled parser and serializer. -/
def harden (input : Input) (config : Json) :
    Logged (Except Fault Hardened) :=
  Engine.harden {} input config

end MarkupHarden
