import MarkupHarden.Dom.Document
import MarkupHarden.Fault
import MarkupHarden.Html.Parser
import MarkupHarden.Json.Basic

/-!
# Input

What a caller may hand over, and what it comes down to: markup, or a node of
the caller's document.
-/

namespace MarkupHarden

open Dom (Document NodeId)

/-- What a caller hands over. -/
inductive Input where
  | markup (text : String)
  /-- A node of the caller's document, which is copied and never changed. -/
  | node (document : Document) (id : NodeId)
  /-- A loosely typed value: a string is markup, null is empty, booleans and
  numbers are their text. -/
  | value (value : Json)

/-- Input whose type has been checked. -/
inductive Source where
  | markup (text : String)
  | node (document : Document) (id : NodeId)

namespace Source

def ofValue : Json → Except Fault Source
  | .null => .ok (.markup "")
  | .bool value => .ok (.markup (if value then "true" else "false"))
  | .number number => .ok (.markup number.text)
  | .string text => .ok (.markup text)
  | .array _ | .object _ => .error .compositeInput

def ofNode (document : Document) (id : NodeId) : Except Fault Source :=
  match document.kind? id with
  | none => .error (.foreignNode id)
  | some .document | some .doctype => .error .documentAsInput
  | some _ => .ok (.node document id)

/-- Refuses what cannot be hardened as content. -/
def ofInput : Input → Except Fault Source
  | .markup text => .ok (.markup text)
  | .node document id => ofNode document id
  | .value value => ofValue value

/-- The source as markup; a node counts with its own tags. -/
def toMarkup (serializer : Html.MarkupSerializer) : Source → String
  | .markup text => text
  | .node document id => serializer.serialize document id .outer

end Source

end MarkupHarden
