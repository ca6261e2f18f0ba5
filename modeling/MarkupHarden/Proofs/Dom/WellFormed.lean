import Mathlib.Data.Finset.Card
import Mathlib.Logic.Relation
import MarkupHarden.Proofs.Dom.Update

/-!
# Well-formed documents

The links of a well-formed document form an ordered forest: the list of
children and the parent link of a node say the same, and no node lies above
itself.  Every node then has a rank, the number of nodes above it, which grows
from parent to child.  Recursion down the tree and along the ancestors ends
because of it.
-/

namespace MarkupHarden.Dom.Document

/-- `child` is linked to `parent`. -/
def HangsUnder (document : Document) (child parent : NodeId) : Prop :=
  document.parent? child = some parent

/-- `id` lies at or below `top`. -/
def InSubtree (document : Document) (id top : NodeId) : Prop :=
  Relation.ReflTransGen document.HangsUnder id top

structure WellFormed (document : Document) : Prop where
  mem_children : ∀ parent child,
    child ∈ document.children parent ↔ document.parent? child = some parent
  nodup : ∀ id, (document.children id).Nodup
  acyclic : ∀ id, ¬Relation.TransGen document.HangsUnder id id
  childless : ∀ id data, document.data? id = some data →
    data.canHoldChildren = false → document.children id = []

namespace WellFormed

variable {document : Document}

theorem parent_lt (wellFormed : document.WellFormed) {child parent : NodeId}
    (hangs : document.HangsUnder child parent) :
    parent < document.nodeCount :=
  lt_of_mem_children ((wellFormed.mem_children parent child).mpr hangs)

theorem child_lt (wellFormed : document.WellFormed) {child parent : NodeId}
    (member : child ∈ document.children parent) :
    child < document.nodeCount :=
  lt_of_parent?_eq_some ((wellFormed.mem_children parent child).mp member)

theorem children_of_absent {id : NodeId} (absent : document.nodeCount ≤ id) :
    document.children id = [] := by
  simp [children, node?_eq_none_iff.mpr absent]

theorem exists_rank (wellFormed : document.WellFormed) :
    ∃ rank : NodeId → Nat,
      (∀ id, rank id ≤ document.nodeCount) ∧
        ∀ child parent, document.HangsUnder child parent →
          rank parent < rank child := by
  classical
  let above (id : NodeId) : Finset NodeId :=
    (Finset.range document.nodeCount).filter fun ancestor =>
      Relation.TransGen document.HangsUnder id ancestor
  refine ⟨fun id => (above id).card, ?_, ?_⟩
  · intro id
    have bounded : (above id).card ≤ (Finset.range document.nodeCount).card :=
      Finset.card_le_card (Finset.filter_subset _ _)
    simpa using bounded
  · intro child parent hangs
    apply Finset.card_lt_card
    rw [Finset.ssubset_iff_of_subset]
    · refine ⟨parent, ?_, ?_⟩
      · simp only [above, Finset.mem_filter, Finset.mem_range]
        exact ⟨wellFormed.parent_lt hangs, .single hangs⟩
      · simp only [above, Finset.mem_filter, not_and]
        intro _
        exact wellFormed.acyclic parent
    · intro ancestor member
      simp only [above, Finset.mem_filter] at member ⊢
      exact ⟨member.1, .head hangs member.2⟩

/-- A property holds of every node when it passes from the children of a node
to the node itself. -/
theorem induction_below (wellFormed : document.WellFormed)
    {motive : NodeId → Prop}
    (step : ∀ id, (∀ child ∈ document.children id, motive child) → motive id)
    (id : NodeId) : motive id := by
  obtain ⟨rank, bounded, increases⟩ := wellFormed.exists_rank
  induction height : document.nodeCount - rank id using Nat.strong_induction_on
    generalizing id with
  | _ height induction =>
      apply step
      intro child member
      have hangs := (wellFormed.mem_children id child).mp member
      have larger := increases child id hangs
      have limit := bounded child
      exact induction _ (by omega) child rfl

/-! ### Ancestors -/

theorem not_inSubtree_of_hangsUnder (wellFormed : document.WellFormed)
    {child parent : NodeId} (hangs : document.HangsUnder child parent) :
    ¬document.InSubtree parent child := by
  intro below
  exact wellFormed.acyclic child (.head' hangs below)

theorem lt_of_inSubtree {id top : NodeId}
    (below : document.InSubtree id top) (inside : top < document.nodeCount) :
    id < document.nodeCount := by
  induction below using Relation.ReflTransGen.head_induction_on with
  | refl => exact inside
  | head hangs _ _ => exact lt_of_parent?_eq_some hangs

private theorem ancestorsUpTo_succ {rank : NodeId → Nat}
    (increases : ∀ child parent, document.HangsUnder child parent →
      rank parent < rank child) :
    ∀ limit id, rank id < limit →
      document.ancestorsUpTo (limit + 1) id = document.ancestorsUpTo limit id := by
  intro limit
  induction limit with
  | zero =>
      intro id below
      exact absurd below (Nat.not_lt_zero _)
  | succ limit induction =>
      intro id below
      cases hangs : document.parent? id with
      | none => simp [ancestorsUpTo, hangs]
      | some parent =>
          have smaller := increases id parent hangs
          have same := induction parent (by omega)
          rw [ancestorsUpTo, ancestorsUpTo, hangs]
          simp only [same]

theorem inclusiveAncestors_eq (wellFormed : document.WellFormed) (id : NodeId) :
    document.inclusiveAncestors id =
      id ::
        match document.parent? id with
        | none => []
        | some parent => document.inclusiveAncestors parent := by
  obtain ⟨rank, bounded, increases⟩ := wellFormed.exists_rank
  unfold inclusiveAncestors
  rw [ancestorsUpTo]
  cases hangs : document.parent? id with
  | none => rfl
  | some parent =>
      have smaller := increases id parent hangs
      have limit := bounded id
      have same := ancestorsUpTo_succ increases document.nodeCount parent
        (by omega)
      simp only [same]

theorem mem_inclusiveAncestors_iff (wellFormed : document.WellFormed)
    (id ancestor : NodeId) :
    ancestor ∈ document.inclusiveAncestors id ↔
      document.InSubtree id ancestor := by
  obtain ⟨rank, _, increases⟩ := wellFormed.exists_rank
  induction height : rank id using Nat.strong_induction_on
    generalizing id with
  | _ height induction =>
      rw [wellFormed.inclusiveAncestors_eq, List.mem_cons, InSubtree,
        Relation.ReflTransGen.cases_head_iff]
      cases hangs : document.parent? id with
      | none => simp [HangsUnder, hangs, eq_comm]
      | some parent =>
          have smaller := increases id parent hangs
          have above := induction (rank parent) (by omega) parent rfl
          simp [HangsUnder, hangs, above, eq_comm, InSubtree]

theorem isInclusiveAncestor_iff (wellFormed : document.WellFormed)
    (ancestor id : NodeId) :
    document.isInclusiveAncestor ancestor id = true ↔
      document.InSubtree id ancestor := by
  rw [isInclusiveAncestor, List.contains_iff_mem]
  exact wellFormed.mem_inclusiveAncestors_iff id ancestor

end WellFormed

end MarkupHarden.Dom.Document
