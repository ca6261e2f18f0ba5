import MarkupHarden.Dom.Node

/-!
# Documents

A document is a growing table of nodes.  Nodes are never removed from the
table: a detached node keeps its number and its subtree.  Slot 0 holds the
document node.  Questions about unknown numbers are answered by `none` or by
the empty list.
-/

namespace MarkupHarden.Dom

/-- The table of all nodes created so far, by number. -/
structure Document where
  nodes : Array Node
  deriving DecidableEq, Repr

namespace Document

/-- The number of the document node. -/
def root : NodeId := 0

/-- A document that holds only its document node. -/
def empty : Document where
  nodes := #[{ data := .document }]

/-- The number of nodes, detached ones included. -/
def nodeCount (document : Document) : Nat :=
  document.nodes.size

def contains (document : Document) (id : NodeId) : Bool :=
  id < document.nodeCount

def node? (document : Document) (id : NodeId) : Option Node :=
  document.nodes[id]?

def data? (document : Document) (id : NodeId) : Option NodeData :=
  (document.node? id).map Node.data

def kind? (document : Document) (id : NodeId) : Option NodeKind :=
  (document.data? id).map NodeData.kind

def element? (document : Document) (id : NodeId) : Option Element :=
  match document.data? id with
  | some (.element element) => some element
  | _ => none

/-- Whether `id` is the HTML element called `name`. -/
def isHtmlElement (document : Document) (id : NodeId) (name : String) : Bool :=
  (document.element? id).any (·.isHtml name)

def parent? (document : Document) (id : NodeId) : Option NodeId :=
  (document.node? id).bind Node.parent

/-- The children of a node in order. -/
def children (document : Document) (id : NodeId) : List NodeId :=
  ((document.node? id).map Node.children).getD []

def firstChild? (document : Document) (id : NodeId) : Option NodeId :=
  (document.children id).head?

def lastChild? (document : Document) (id : NodeId) : Option NodeId :=
  (document.children id).getLast?

/-- The entry that follows the first occurrence of `id`. -/
def entryAfter (id : NodeId) : List NodeId → Option NodeId
  | [] => none
  | entry :: rest => if entry = id then rest.head? else entryAfter id rest

def nextSibling? (document : Document) (id : NodeId) : Option NodeId :=
  (document.parent? id).bind fun parent =>
    entryAfter id (document.children parent)

def previousSibling? (document : Document) (id : NodeId) : Option NodeId :=
  (document.parent? id).bind fun parent =>
    entryAfter id (document.children parent).reverse

/-- Changes the node `id`, if there is one. -/
def modifyNode (document : Document) (id : NodeId) (change : Node → Node) :
    Document where
  nodes := document.nodes.modify id change

/-- Replaces the payload of a node. -/
def setData (document : Document) (id : NodeId) (data : NodeData) : Document :=
  document.modifyNode id fun node => { node with data := data }

/-- Adds a detached node and returns its number. -/
def create (document : Document) (data : NodeData) : NodeId × Document :=
  (document.nodeCount, { nodes := document.nodes.push { data := data } })

/-- Makes the parentless node `child` the last child of `parent`. -/
def linkLast (document : Document) (parent child : NodeId) : Document :=
  (document.modifyNode parent fun node =>
      { node with children := node.children ++ [child] }).modifyNode child
    fun node => { node with parent := some parent }

/-- The tree that parsing starts from: `html` holding `head` and `body`. -/
def shell : Document :=
  let (html, document) := empty.create (.element (.html "html"))
  let (head, document) := document.create (.element (.html "head"))
  let (body, document) := document.create (.element (.html "body"))
  ((document.linkLast root html).linkLast html head).linkLast html body

/-- The first element among the children of the document node. -/
def documentElement? (document : Document) : Option NodeId :=
  (document.children root).find? fun id => document.kind? id = some .element

/-- The first child of the document element that is the HTML element `name`. -/
def section? (document : Document) (name : String) : Option NodeId :=
  document.documentElement?.bind fun html =>
    (document.children html).find? (document.isHtmlElement · name)

def head? (document : Document) : Option NodeId :=
  document.section? "head"

def body? (document : Document) : Option NodeId :=
  document.section? "body"

end Document

end MarkupHarden.Dom
