import MarkupHarden.Dom.Document
import MarkupHarden.Html.CharacterReference
import MarkupHarden.Html.Vocabulary

/-!
# Writing markup

A subtree is written with a list of pending steps, so that the nesting of the
tree is held by data.  Every node is opened and closed at most once, which
bounds the number of steps.
-/

namespace MarkupHarden.Html

open Dom (Document Element NodeData NodeId)

/-- Which part of a node is written. -/
inductive Scope where
  /-- The node itself with everything below it. -/
  | outer
  /-- Its children only. -/
  | inner
  deriving DecidableEq, Repr

/-- What remains to be written. -/
inductive WriteStep where
  | opening (id : NodeId)
  | closing (id : NodeId)
  deriving DecidableEq, Repr

/-- An attribute with a blank in front. -/
def attributeMarkup (name value : String) : String :=
  " " ++ name ++ "=\"" ++
    String.ofList (CharacterReference.escapeAttribute value.toList) ++ "\""

def startTagMarkup (element : Element) : String :=
  "<" ++ element.localName ++
    String.join
      (element.attributes.map fun pair => attributeMarkup pair.1 pair.2) ++ ">"

def endTagMarkup (element : Element) : String :=
  "</" ++ element.localName ++ ">"

/-- Text, escaped unless its parent is written raw. -/
def textMarkup (raw : Bool) (text : String) : String :=
  if raw then text
  else String.ofList (CharacterReference.escapeText text.toList)

/-- Whether the text of a node is written as it is. -/
def isRawText (document : Document) (id : NodeId) : Bool :=
  ((document.parent? id).bind document.element?).any writesRawText

/-- Whether an element is written without content and end tag. -/
def endsAtOnce (element : Element) : Bool :=
  element.ns = .html && isVoid element.localName

/-- Whether an element is written without an end tag: inside `plaintext` it
would be read as text. -/
def staysOpen (element : Element) : Bool :=
  element.ns = .html && element.localName = "plaintext"

/-- What opening a node writes and which steps it leaves to be done. -/
def openingOf (document : Document) (id : NodeId) :
    String × List WriteStep :=
  let content := (document.children id).map WriteStep.opening
  match document.data? id with
  | none => ("", [])
  | some .document => ("", content)
  | some (.doctype name) => ("<!DOCTYPE " ++ name ++ ">", [])
  | some (.element element) =>
      (startTagMarkup element,
        if endsAtOnce element then []
        else if staysOpen element then content
        else content ++ [.closing id])
  | some (.text text) => (textMarkup (isRawText document id) text, [])
  | some (.comment text) => ("<!--" ++ text ++ "-->", [])
  | some (.processingInstruction target data) =>
      ("<?" ++ target ++ " " ++ data ++ ">", [])

/-- What closing a node writes. -/
def closingOf (document : Document) (id : NodeId) : String :=
  ((document.element? id).map endTagMarkup).getD ""

/-- Does at most `limit` of the pending steps, first to last. -/
def writeSteps (document : Document) : Nat → List WriteStep → String
  | 0, _ | _, [] => ""
  | limit + 1, .closing id :: pending =>
      closingOf document id ++ writeSteps document limit pending
  | limit + 1, .opening id :: pending =>
      let (markup, steps) := openingOf document id
      markup ++ writeSteps document limit (steps ++ pending)

/-- The markup of a node or of its children. -/
def serialize (document : Document) (id : NodeId) (scope : Scope) : String :=
  writeSteps document (2 * document.nodeCount + 1)
    (match scope with
      | .outer => [.opening id]
      | .inner => (document.children id).map .opening)

def outerHtml (document : Document) (id : NodeId) : String :=
  serialize document id .outer

def innerHtml (document : Document) (id : NodeId) : String :=
  serialize document id .inner

end MarkupHarden.Html
