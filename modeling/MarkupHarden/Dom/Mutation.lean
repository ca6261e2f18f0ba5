import MarkupHarden.Dom.Order

/-!
# Changing the tree

Each operation first decides whether the request keeps the tree a tree; a
refused request names its reason.  The document that comes back with a refusal
is the one that went in, except that `appendText` has already created its text
node when attaching it is refused.
-/

namespace MarkupHarden.Dom

/-- Why a change to the tree was refused. -/
inductive Refusal where
  | unknownParent (parent : NodeId)
  | childlessParent (kind : NodeKind)
  | unknownChild (child : NodeId)
  | documentAsChild
  | childAboveParent
  | replacedWithoutParent
  | replacementAboveParent
  | unknownSource (source : NodeId)
  | documentImport
  | contextNotElement
  | incompleteShell
  deriving DecidableEq, Repr

def Refusal.message : Refusal → String
  | .unknownParent parent => s!"unknown parent node {parent}"
  | .childlessParent kind => s!"{kind.label} nodes cannot have children"
  | .unknownChild child => s!"unknown child node {child}"
  | .documentAsChild => "a document cannot be inserted as a child"
  | .childAboveParent => "a node cannot be appended inside its own subtree"
  | .replacedWithoutParent => "replaced node has no parent"
  | .replacementAboveParent => "replacement would create a cycle"
  | .unknownSource source => s!"unknown source node {source}"
  | .documentImport => "document nodes cannot be imported"
  | .contextNotElement =>
      "fragment context must be an element of the target document"
  | .incompleteShell => "document shell lacks html or body"

namespace Document

/-- Unlinks a node from its parent; its subtree stays below it. -/
def detach (document : Document) (id : NodeId) : Document :=
  match document.parent? id with
  | none => document
  | some parent =>
      (document.modifyNode parent fun node =>
          { node with children := node.children.erase id }).modifyNode id
        fun node => { node with parent := none }

/-- The reason, if any, for which `child` cannot become a child of `parent`. -/
def appendRefusal? (document : Document) (parent child : NodeId) :
    Option Refusal :=
  match document.data? parent, document.kind? child with
  | none, _ => some (.unknownParent parent)
  | some parentData, childKind =>
      if !parentData.canHoldChildren then
        some (.childlessParent parentData.kind)
      else
        match childKind with
        | none => some (.unknownChild child)
        | some kind =>
            if kind = .document then some .documentAsChild
            else if document.isInclusiveAncestor child parent then
              some .childAboveParent
            else none

/-- Makes `child` the last child of `parent`, taking it from where it was. -/
def appendChild (document : Document) (parent child : NodeId) :
    Except Refusal Unit × Document :=
  match document.appendRefusal? parent child with
  | some refusal => (.error refusal, document)
  | none => (.ok (), (document.detach child).linkLast parent child)

/-- Creates a node and makes it the last child of `parent`. -/
def appendNew (document : Document) (parent : NodeId) (data : NodeData) :
    Except Refusal NodeId × Document :=
  let (id, document) := document.create data
  let (outcome, document) := document.appendChild parent id
  (outcome.map fun _ => id, document)

/-- Appends text under `parent`, extending a text node that comes last. -/
def appendText (document : Document) (parent : NodeId) (text : String) :
    Except Refusal Unit × Document :=
  if text.isEmpty then (.ok (), document)
  else
    match (document.lastChild? parent).map fun last =>
        (last, document.data? last) with
    | some (last, some (.text existing)) =>
        (.ok (), document.setData last (.text (existing ++ text)))
    | _ =>
        let (outcome, document) := document.appendNew parent (.text text)
        (outcome.map fun _ => (), document)

/-- The reason, if any, for which `new` cannot take the place of `old`, whose
parent is `parent`. -/
def replaceRefusal? (document : Document) (parent new : NodeId) :
    Option Refusal :=
  if !document.contains new || document.isInclusiveAncestor new parent then
    some .replacementAboveParent
  else none

/-- Puts `new` in the place of `old`, taking it from where it was; `old` stays
behind without a parent. -/
def replaceChild (document : Document) (old new : NodeId) :
    Except Refusal Unit × Document :=
  match document.parent? old with
  | none => (.error .replacedWithoutParent, document)
  | some parent =>
      if old = new then (.ok (), document)
      else
        match document.replaceRefusal? parent new with
        | some refusal => (.error refusal, document)
        | none =>
            let document := document.detach new
            let document := document.modifyNode parent fun node =>
              { node with children := node.children.replace old new }
            let document := document.modifyNode old fun node =>
              { node with parent := none }
            (.ok (), document.modifyNode new fun node =>
              { node with parent := some parent })

/-- Copies the children of one source node below one copy, in order, and lists
the pairs whose children are still to be copied, latest first. -/
def copyChildren (source : Document) (copyParent : NodeId) :
    List NodeId → Document → List (NodeId × NodeId) →
      Document × List (NodeId × NodeId)
  | [], document, copied => (document, copied)
  | child :: rest, document, copied =>
      match source.data? child with
      | none => copyChildren source copyParent rest document copied
      | some data =>
          let (copy, document) := document.create data
          copyChildren source copyParent rest
            (document.linkLast copyParent copy) ((child, copy) :: copied)

/-- Copies what lies below the pending pairs, the latest pair first.  Each
source node is pending at most once, which bounds the number of rounds. -/
def copyPending (source : Document) :
    Nat → List (NodeId × NodeId) → Document → Document
  | 0, _, document | _, [], document => document
  | limit + 1, (node, copy) :: pending, document =>
      let (document, copied) :=
        copyChildren source copy (source.children node) document []
      copyPending source limit (copied ++ pending) document

/-- Copies `id` and everything below it out of `source`, as a detached node. -/
def importNode (document source : Document) (id : NodeId) :
    Except Refusal NodeId × Document :=
  match source.data? id with
  | none => (.error (.unknownSource id), document)
  | some .document => (.error .documentImport, document)
  | some data =>
      let (copy, document) := document.create data
      (.ok copy, copyPending source source.nodeCount [(id, copy)] document)

end Document

end MarkupHarden.Dom
