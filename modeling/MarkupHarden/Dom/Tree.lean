import MarkupHarden.Dom.Order

/-!
# Trees

`Tree` is the shape of a subtree without node numbers: a payload with the
trees of its children.  `Document.tree?` reads it off a document.
-/

namespace MarkupHarden.Dom

/-- A payload and the trees below it. -/
inductive Tree where
  | node (data : NodeData) (children : List Tree)
  deriving Repr

namespace Tree

def data : Tree → NodeData
  | node data _ => data

def children : Tree → List Tree
  | node _ children => children

mutual

/-- The payloads in document order, each with its depth below `depth`. -/
def outline (depth : Nat) : Tree → List (Nat × NodeData)
  | node data children => (depth, data) :: outlineAll (depth + 1) children

/-- The outlines of neighbouring trees, one after the other. -/
def outlineAll (depth : Nat) : List Tree → List (Nat × NodeData)
  | [] => []
  | tree :: rest => tree.outline depth ++ outlineAll depth rest

end

end Tree

namespace Document

/-- The tree at `id`, cut off below `limit` levels. -/
def treeUpTo (document : Document) : Nat → NodeId → Tree
  | 0, id => .node ((document.data? id).getD .document) []
  | limit + 1, id =>
      .node ((document.data? id).getD .document)
        ((document.children id).map (document.treeUpTo limit))

/-- The tree at `id`, which is never higher than the table is long. -/
def tree? (document : Document) (id : NodeId) : Option Tree :=
  if document.contains id then some (document.treeUpTo document.nodeCount id)
  else none

end Document

end MarkupHarden.Dom
