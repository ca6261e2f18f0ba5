import MarkupHarden.Event
import MarkupHarden.Html.Serializer
import MarkupHarden.Html.TreeBuilder

/-!
# Parsers and serializers

The engine reaches markup through two small interfaces, so that a caller can
put another parser or serializer in their place.  `HtmlParser` is the bundled
parser; it forgives everything except nesting beyond its limit in a document.
-/

namespace MarkupHarden.Html

open Dom (Document NodeId)

/-- Turns markup into trees. -/
structure MarkupParser where
  /-- Parses a complete document. -/
  parseDocument : String → Logged (Except Fault Document)
  /-- Parses markup as further children of a node of the document. -/
  parseFragment :
    String → Document → NodeId → Logged (Except Fault Unit × Document)

/-- Turns trees into markup. -/
structure MarkupSerializer where
  serialize : Document → NodeId → Scope → String

/-- The bundled parser with its nesting limit. -/
structure HtmlParser where
  maxDepth : Nat := 512
  deriving DecidableEq, Repr

/-- The bundled parser with another limit, which is at least 1. -/
def HtmlParser.withMaxDepth (limit : Nat) : HtmlParser where
  maxDepth := max limit 1

namespace Builder

/-- The fault that ended the building, if any. -/
def fault? (builder : Builder) : Option Fault :=
  match builder.refusal with
  | some refusal => some (.refused refusal)
  | none =>
      if builder.isStopped then some (.nestingExceeds builder.maxDepth)
      else none

/-- The events of the building. -/
def events (builder : Builder) : List Event :=
  builder.strayEndTags.map .strayEndTag

end Builder

namespace HtmlParser

def parseDocument (parser : HtmlParser) (markup : String) :
    Logged (Except Fault Document) :=
  let builder := (Builder.forDocument parser.maxDepth).run markup
  match builder.fault? with
  | some fault => { value := .error fault, events := builder.events }
  | none =>
      { value := .ok builder.document
        events :=
          builder.events ++
            [.documentParsed markup.utf8ByteSize
              builder.document.nodeCount] }

/-- Appends the tree of the markup to the children of `context`. -/
def parseFragment (parser : HtmlParser) (markup : String)
    (document : Document) (context : NodeId) :
    Logged (Except Fault Unit × Document) :=
  if (document.element? context).isNone then
    { value := (.error (.refused .contextNotElement), document) }
  else
    let builder :=
      (Builder.forFragment document context parser.maxDepth).run markup
    match builder.fault? with
    | some fault =>
        { value := (.error fault, builder.document)
          events := builder.events }
    | none =>
        { value := (.ok (), builder.document)
          events :=
            builder.events ++
              [.fragmentParsed markup.utf8ByteSize
                (builder.document.nodeCount - document.nodeCount)] }

def toMarkupParser (parser : HtmlParser) : MarkupParser where
  parseDocument := parser.parseDocument
  parseFragment := parser.parseFragment

end HtmlParser

/-- The bundled serializer. -/
def htmlSerializer : MarkupSerializer where
  serialize := serialize

end MarkupHarden.Html
