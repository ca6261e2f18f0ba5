import MarkupHarden.Dom.Order

/-!
# Cursors

A cursor visits a subtree in document order and stops at nodes of chosen
kinds.  It remembers only the last node it passed and asks the document for the
successor at each step, so payloads may change between steps.
-/

namespace MarkupHarden.Dom

/-- A selection of kinds of nodes. -/
structure KindSet where
  kinds : List NodeKind
  deriving DecidableEq, Repr

namespace KindSet

def accepts (set : KindSet) (kind : NodeKind) : Bool :=
  set.kinds.contains kind

def only (kind : NodeKind) : KindSet where
  kinds := [kind]

def union (left right : KindSet) : KindSet where
  kinds := left.kinds ++ right.kinds

/-- Every kind of node. -/
def all : KindSet where
  kinds := [.element, .text, .processingInstruction, .comment, .document,
    .doctype]

@[simp]
theorem accepts_only (kind other : NodeKind) :
    (only kind).accepts other = decide (other = kind) := by
  simp [only, accepts, eq_comm]

@[simp]
theorem accepts_union (left right : KindSet) (kind : NodeKind) :
    (left.union right).accepts kind =
      (left.accepts kind || right.accepts kind) := by
  simp [union, accepts]

theorem accepts_all (kind : NodeKind) : all.accepts kind = true := by
  cases kind <;> rfl

end KindSet

/-- A position in a walk over the subtree at `top`. -/
structure Cursor where
  top : NodeId
  kinds : KindSet
  passed : Option NodeId := none
  finished : Bool := false
  deriving DecidableEq, Repr

namespace Cursor

/-- Goes from the candidate on to the next node of an accepted kind, looking at
no more than `limit` nodes. -/
def seek (cursor : Cursor) (document : Document) :
    Nat → Option NodeId → Option NodeId × Cursor
  | 0, _ | _, none => (none, { cursor with finished := true })
  | limit + 1, some id =>
      if (document.kind? id).any cursor.kinds.accepts then
        (some id, { cursor with passed := some id })
      else cursor.seek document limit (document.following? id cursor.top)

/-- The next node and the cursor behind it; a finished cursor stays so. -/
def next (cursor : Cursor) (document : Document) : Option NodeId × Cursor :=
  if cursor.finished then (none, cursor)
  else
    cursor.seek document (document.nodeCount + 1)
      (match cursor.passed with
        | none =>
            if document.contains cursor.top then some cursor.top else none
        | some passed => document.following? passed cursor.top)

end Cursor

end MarkupHarden.Dom
