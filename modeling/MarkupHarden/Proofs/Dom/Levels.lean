import MarkupHarden.Proofs.Dom.Growth

/-!
# Levels

How deep a node lies below another one.  A node that is added lies one level
lower than its parent, and the levels of all other nodes stay.
-/

namespace MarkupHarden.Dom.Document

variable {document : Document} {top id parent : NodeId} {data : NodeData}

/-- `id` lies that many levels below `top`. -/
inductive LevelsBelow (document : Document) (top : NodeId) :
    NodeId → Nat → Prop where
  | top : LevelsBelow document top top 0
  | child {id parent : NodeId} {levels : Nat} :
      document.parent? id = some parent →
      LevelsBelow document top parent levels →
      LevelsBelow document top id (levels + 1)

namespace LevelsBelow

variable {levels : Nat}

theorem inSubtree (below : document.LevelsBelow top id levels) :
    document.InSubtree id top := by
  induction below with
  | top => exact .refl
  | child hangs _ above => exact .head hangs above

/-- No node lies below itself. -/
theorem eq_zero (wellFormed : document.WellFormed)
    (below : document.LevelsBelow top top levels) : levels = 0 := by
  cases below with
  | top => rfl
  | child hangs above =>
      have first : document.HangsUnder top _ := hangs
      have cycle := Relation.TransGen.head' first above.inSubtree
      exact absurd cycle (wellFormed.acyclic top)

theorem of_parent?_eq {after : Document}
    (same : ∀ id, after.parent? id = document.parent? id)
    (below : after.LevelsBelow top id levels) :
    document.LevelsBelow top id levels := by
  induction below with
  | top => exact .top
  | child hangs _ above => exact .child ((same _).symm.trans hangs) above

/-- Nodes stay where they are when a node is added. -/
theorem grown (inside : parent < document.nodeCount) (data : NodeData)
    (below : document.LevelsBelow top id levels) :
    (document.grown parent data).LevelsBelow top id levels := by
  induction below with
  | top => exact .top
  | child hangs _ above =>
      refine .child ?_ above
      rw [parent?_grown inside,
        if_neg (Nat.ne_of_lt (lt_of_parent?_eq_some hangs))]
      exact hangs

/-- An old node lies no lower than before a node was added. -/
theorem of_grown (wellFormed : document.WellFormed)
    (inside : parent < document.nodeCount) (old : id ≠ document.nodeCount)
    (below : (document.grown parent data).LevelsBelow top id levels) :
    document.LevelsBelow top id levels := by
  induction below with
  | top => exact .top
  | child hangs _ above =>
      rw [parent?_grown inside, if_neg old] at hangs
      exact .child hangs (above (Nat.ne_of_lt (wellFormed.parent_lt hangs)))

/-- A new node lies one level lower than its parent. -/
theorem of_grown_self (wellFormed : document.WellFormed)
    (inside : parent < document.nodeCount)
    (below : (document.grown parent data).LevelsBelow top
      document.nodeCount levels) :
    (top = document.nodeCount ∧ levels = 0) ∨
      ∃ fewer, levels = fewer + 1 ∧
        document.LevelsBelow top parent fewer := by
  cases below with
  | top => exact Or.inl ⟨rfl, rfl⟩
  | @child _ _ fewer hangs above =>
      rw [parent?_grown inside, if_pos rfl] at hangs
      cases hangs
      exact Or.inr ⟨fewer, rfl,
        above.of_grown wellFormed inside (Nat.ne_of_lt inside)⟩

/-- Only `top` itself can lie below an unknown node. -/
theorem eq_of_absent (wellFormed : document.WellFormed)
    (absent : document.nodeCount ≤ top)
    (below : document.LevelsBelow top id levels) : id = top := by
  induction below with
  | top => rfl
  | child hangs _ same =>
      rw [same] at hangs
      exact absurd (wellFormed.parent_lt hangs) (Nat.not_lt.mpr absent)

end LevelsBelow

end MarkupHarden.Dom.Document
