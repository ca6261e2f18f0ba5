import Mathlib.Data.List.Nodup
import Mathlib.Data.List.Pairwise
import MarkupHarden.Proofs.Dom.WellFormed

/-!
# Subtrees in document order

`subtree` lists a node and everything below it by recursion on the lists of
children: the node first, then the subtrees of its children in order.  In a
well-formed document it holds exactly the nodes at or below its top, each of
them once.
-/

namespace MarkupHarden.Dom.Document

/-- The node `id` and what lies below it in document order, cut off below
`limit` levels. -/
def subtreeUpTo (document : Document) : Nat → NodeId → List NodeId
  | 0, _ => []
  | limit + 1, id =>
      id :: (document.children id).flatMap (document.subtreeUpTo limit)

/-- The node `id` and everything below it in document order; nothing for an
unknown node. -/
def subtree (document : Document) (id : NodeId) : List NodeId :=
  if document.contains id then
    document.subtreeUpTo (document.nodeCount + 1) id
  else []

/-- The subtrees of neighbouring nodes, one after the other. -/
def subtrees (document : Document) (ids : List NodeId) : List NodeId :=
  ids.flatMap document.subtree

variable {document : Document}

/-- There are no more different nodes than numbers below the limit. -/
theorem length_le_of_nodup {ids : List NodeId} {limit : Nat}
    (distinct : ids.Nodup) (inside : ∀ id ∈ ids, id < limit) :
    ids.length ≤ limit := by
  have within : ids ⊆ List.range limit := fun id member =>
    List.mem_range.mpr (inside id member)
  have bounded := (distinct.subperm within).length_le
  rwa [List.length_range] at bounded

@[simp]
theorem subtrees_nil : document.subtrees [] = [] := rfl

@[simp]
theorem subtrees_cons (id : NodeId) (ids : List NodeId) :
    document.subtrees (id :: ids) =
      document.subtree id ++ document.subtrees ids := rfl

theorem subtree_of_absent {id : NodeId} (absent : document.nodeCount ≤ id) :
    document.subtree id = [] := by
  have outside : document.contains id = false := by
    simpa [contains] using absent
  simp [subtree, outside]

namespace WellFormed

private theorem subtreeUpTo_succ {rank : NodeId → Nat}
    (bounded : ∀ id, rank id ≤ document.nodeCount)
    (increases : ∀ id, ∀ child ∈ document.children id, rank id < rank child) :
    ∀ limit id, document.nodeCount < limit + rank id →
      document.subtreeUpTo (limit + 1) id = document.subtreeUpTo limit id := by
  intro limit
  induction limit with
  | zero =>
      intro id below
      have limit := bounded id
      omega
  | succ limit induction =>
      intro id below
      rw [subtreeUpTo, subtreeUpTo]
      have same : ∀ child ∈ document.children id,
          document.subtreeUpTo (limit + 1) child =
            document.subtreeUpTo limit child := by
        intro child member
        have larger := increases id child member
        exact induction child (by omega)
      rw [List.flatMap_congr same]

theorem subtree_eq (wellFormed : document.WellFormed) {id : NodeId}
    (inside : id < document.nodeCount) :
    document.subtree id = id :: document.subtrees (document.children id) := by
  obtain ⟨rank, bounded, increases⟩ := wellFormed.exists_rank
  have larger : ∀ id, ∀ child ∈ document.children id, rank id < rank child := by
    intro id child member
    exact increases child id ((wellFormed.mem_children id child).mp member)
  rw [subtree, if_pos (contains_iff.mpr inside), subtreeUpTo]
  have same : ∀ child ∈ document.children id,
      document.subtreeUpTo document.nodeCount child =
        document.subtree child := by
    intro child member
    have childInside := wellFormed.child_lt member
    have childLarger := larger id child member
    rw [subtree, if_pos (contains_iff.mpr childInside)]
    exact (subtreeUpTo_succ bounded larger document.nodeCount child
      (by omega)).symm
  rw [List.flatMap_congr same]
  rfl

theorem mem_subtree_iff (wellFormed : document.WellFormed) (id top : NodeId) :
    id ∈ document.subtree top ↔
      top < document.nodeCount ∧ document.InSubtree id top := by
  revert id
  refine wellFormed.induction_below (motive := fun top => ∀ id,
    id ∈ document.subtree top ↔
      top < document.nodeCount ∧ document.InSubtree id top) ?_ top
  intro top induction id
  by_cases inside : top < document.nodeCount
  · rw [wellFormed.subtree_eq inside, List.mem_cons, subtrees,
      List.mem_flatMap, InSubtree, Relation.ReflTransGen.cases_tail_iff]
    constructor
    · rintro (rfl | ⟨child, member, below⟩)
      · exact ⟨inside, Or.inl rfl⟩
      · have hangs := (wellFormed.mem_children top child).mp member
        exact ⟨inside, Or.inr
          ⟨child, ((induction child member id).mp below).2, hangs⟩⟩
    · rintro ⟨_, rfl | ⟨child, below, hangs⟩⟩
      · exact Or.inl rfl
      · have member := (wellFormed.mem_children top child).mpr hangs
        exact Or.inr ⟨child, member,
          (induction child member id).mpr
            ⟨wellFormed.child_lt member, below⟩⟩
  · simp [subtree_of_absent (Nat.le_of_not_lt inside), inside]

theorem mem_subtrees_iff (wellFormed : document.WellFormed)
    (id parent : NodeId) :
    id ∈ document.subtrees (document.children parent) ↔
      ∃ child, document.HangsUnder child parent ∧
        document.InSubtree id child := by
  simp only [subtrees, List.mem_flatMap]
  constructor
  · rintro ⟨child, member, below⟩
    exact ⟨child, (wellFormed.mem_children parent child).mp member,
      ((wellFormed.mem_subtree_iff id child).mp below).2⟩
  · rintro ⟨child, hangs, below⟩
    have member := (wellFormed.mem_children parent child).mpr hangs
    exact ⟨child, member, (wellFormed.mem_subtree_iff id child).mpr
      ⟨wellFormed.child_lt member, below⟩⟩

/-- Two children of one node have no node below them in common. -/
theorem eq_of_common_descendant (wellFormed : document.WellFormed)
    {id left right parent : NodeId}
    (leftHangs : document.HangsUnder left parent)
    (rightHangs : document.HangsUnder right parent)
    (belowLeft : document.InSubtree id left)
    (belowRight : document.InSubtree id right) : left = right := by
  have functional : Relator.RightUnique document.HangsUnder := by
    intro child first second one other
    exact Option.some.inj (one.symm.trans other)
  rcases Relation.ReflTransGen.total_of_right_unique functional belowLeft
    belowRight with above | above
  · rcases Relation.ReflTransGen.cases_head above with equal | ⟨_, hangs, rest⟩
    · exact equal
    · cases functional leftHangs hangs
      exact absurd rest (wellFormed.not_inSubtree_of_hangsUnder rightHangs)
  · rcases Relation.ReflTransGen.cases_head above with equal | ⟨_, hangs, rest⟩
    · exact equal.symm
    · cases functional rightHangs hangs
      exact absurd rest (wellFormed.not_inSubtree_of_hangsUnder leftHangs)

theorem nodup_subtree (wellFormed : document.WellFormed) (top : NodeId) :
    (document.subtree top).Nodup := by
  refine wellFormed.induction_below
    (motive := fun top => (document.subtree top).Nodup) ?_ top
  intro top induction
  by_cases inside : top < document.nodeCount
  · rw [wellFormed.subtree_eq inside, List.nodup_cons]
    constructor
    · rw [wellFormed.mem_subtrees_iff]
      rintro ⟨child, hangs, below⟩
      exact wellFormed.not_inSubtree_of_hangsUnder hangs below
    · rw [subtrees, List.nodup_flatMap]
      refine ⟨induction, ?_⟩
      apply (wellFormed.nodup top).imp_of_mem
      intro left right leftMember rightMember different id belowLeft
        belowRight
      exact different (wellFormed.eq_of_common_descendant
        ((wellFormed.mem_children top left).mp leftMember)
        ((wellFormed.mem_children top right).mp rightMember)
        ((wellFormed.mem_subtree_iff id left).mp belowLeft).2
        ((wellFormed.mem_subtree_iff id right).mp belowRight).2)
  · simp [subtree_of_absent (Nat.le_of_not_lt inside)]

theorem length_subtree_le (wellFormed : document.WellFormed) (top : NodeId) :
    (document.subtree top).length ≤ document.nodeCount := by
  apply length_le_of_nodup (wellFormed.nodup_subtree top)
  intro id member
  obtain ⟨inside, below⟩ := (wellFormed.mem_subtree_iff id top).mp member
  exact lt_of_inSubtree below inside

end WellFormed

end MarkupHarden.Dom.Document
