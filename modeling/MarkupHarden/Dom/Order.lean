import MarkupHarden.Dom.Document

/-!
# Document order

Walking from a node to its successor in pre-order, staying inside a subtree,
visits the subtree in document order.  A walk makes at most one step per node
of the table, so its length is bounded by the size of the table.
-/

namespace MarkupHarden.Dom.Document

/-- At most `limit` nodes upwards from `id`, which comes first. -/
def ancestorsUpTo (document : Document) : Nat → NodeId → List NodeId
  | 0, _ => []
  | limit + 1, id =>
      id ::
        match document.parent? id with
        | none => []
        | some parent => document.ancestorsUpTo limit parent

/-- The node `id` and its ancestors, innermost first. -/
def inclusiveAncestors (document : Document) (id : NodeId) : List NodeId :=
  document.ancestorsUpTo (document.nodeCount + 1) id

/-- Whether `ancestor` is `id` or one of its ancestors. -/
def isInclusiveAncestor (document : Document) (ancestor id : NodeId) : Bool :=
  (document.inclusiveAncestors id).contains ancestor

/-- The node after `id` in pre-order inside the subtree at `top`: its first
child, else the next sibling of the innermost node at or above `id` that has
one and lies below `top`. -/
def following? (document : Document) (id top : NodeId) : Option NodeId :=
  match document.firstChild? id with
  | some child => some child
  | none =>
      ((document.inclusiveAncestors id).takeWhile (· ≠ top)).findSome?
        document.nextSibling?

/-- At most `limit` nodes in document order from `next` on. -/
def walk (document : Document) (top : NodeId) :
    Nat → Option NodeId → List NodeId
  | 0, _ | _, none => []
  | limit + 1, some id =>
      id :: document.walk top limit (document.following? id top)

/-- The node `id` and everything below it in document order. -/
def descendants (document : Document) (id : NodeId) : List NodeId :=
  document.walk id document.nodeCount
    (if document.contains id then some id else none)

/-- The first HTML element called `name` at or below `scope`. -/
def firstElementNamed? (document : Document) (scope : NodeId) (name : String) :
    Option NodeId :=
  (document.descendants scope).find? (document.isHtmlElement · name)

/-- The text of a text node and nothing for any other node. -/
def ownText (document : Document) (id : NodeId) : String :=
  match document.data? id with
  | some (.text text) => text
  | _ => ""

/-- The text of all text nodes at or below `id`, in document order. -/
def textContent (document : Document) (id : NodeId) : String :=
  String.join ((document.descendants id).map document.ownText)

end MarkupHarden.Dom.Document
