import MarkupHarden.Dom.Element

/-!
# Nodes

A node carries a payload, the node it hangs under and the list of its
children.  Siblings and the first and last child are read off that list.
-/

namespace MarkupHarden.Dom

/-- Nodes are numbered in order of creation; the document node is number 0. -/
abbrev NodeId := Nat

/-- The coarse classes of nodes. -/
inductive NodeKind where
  | document
  | doctype
  | element
  | text
  | comment
  | processingInstruction
  deriving DecidableEq, Repr

/-- The name of a class of nodes in messages. -/
def NodeKind.label : NodeKind → String
  | .document => "Document"
  | .doctype => "Doctype"
  | .element => "Element"
  | .text => "Text"
  | .comment => "Comment"
  | .processingInstruction => "ProcessingInstruction"

/-- What a node is, without its place in the tree. -/
inductive NodeData where
  | document
  | doctype (name : String)
  | element (element : Element)
  | text (text : String)
  | comment (text : String)
  | processingInstruction (target data : String)
  deriving DecidableEq, Repr

namespace NodeData

def kind : NodeData → NodeKind
  | .document => .document
  | .doctype _ => .doctype
  | .element _ => .element
  | .text _ => .text
  | .comment _ => .comment
  | .processingInstruction _ _ => .processingInstruction

/-- Only documents and elements hold children. -/
def canHoldChildren : NodeData → Bool
  | .document | .element _ => true
  | _ => false

end NodeData

/-- A payload with its links into the tree. -/
structure Node where
  data : NodeData
  parent : Option NodeId := none
  children : List NodeId := []
  deriving DecidableEq, Repr

end MarkupHarden.Dom
