import Mathlib.Data.List.Chain
import MarkupHarden.Proofs.Dom.Growth

/-!
# The right edge of a tree

A path is `Rightmost` when each of its nodes is the last child of the next one.
What lies below the first node then comes last in the document order of the
whole path, so that a node added there comes behind everything else.
-/

namespace MarkupHarden.Dom.Document

variable {document : Document} {parent top : NodeId} {data : NodeData}

/-- A path up the tree on which each node is the last child of the next. -/
def Rightmost (document : Document) (path : List NodeId) : Prop :=
  path.IsChain fun inner outer => document.lastChild? outer = some inner

theorem WellFormed.hangsUnder_of_lastChild? (wellFormed : document.WellFormed)
    {inner outer : NodeId} (last : document.lastChild? outer = some inner) :
    document.HangsUnder inner outer :=
  (wellFormed.mem_children outer inner).mp (List.mem_of_getLast? last)

/-- Documents with the same children below a node list the same subtree. -/
theorem WellFormed.subtree_congr {other : Document}
    (wellFormed : document.WellFormed) (otherWellFormed : other.WellFormed)
    (nodeCount : document.nodeCount ≤ other.nodeCount)
    (inside : top < document.nodeCount)
    (same : ∀ id, document.InSubtree id top →
      other.children id = document.children id) :
    other.subtree top = document.subtree top := by
  revert inside same
  refine wellFormed.induction_below (motive := fun top =>
    top < document.nodeCount →
    (∀ id, document.InSubtree id top →
      other.children id = document.children id) →
      other.subtree top = document.subtree top) ?_ top
  intro top induction inside same
  rw [otherWellFormed.subtree_eq (Nat.lt_of_lt_of_le inside nodeCount),
    wellFormed.subtree_eq inside, same top .refl]
  refine congrArg (top :: ·) (List.flatMap_congr fun child member => ?_)
  have hangs := (wellFormed.mem_children top child).mp member
  exact induction child member (wellFormed.child_lt member) fun id below =>
    same id (.tail below hangs)

/-- A subtree without the node that got a child stays as it is. -/
theorem WellFormed.subtree_grown_of_apart (wellFormed : document.WellFormed)
    (holds : (document.data? parent).any NodeData.canHoldChildren = true)
    (data : NodeData) (inside : top < document.nodeCount)
    (apart : ¬document.InSubtree parent top) :
    (document.grown parent data).subtree top = document.subtree top := by
  obtain ⟨_, present, _⟩ := (Option.any_eq_true _ _).mp holds
  have isNode := lt_of_data?_eq_some present
  refine wellFormed.subtree_congr (wellFormed.grown holds data) (by simp)
    inside ?_
  intro id below
  rw [children_grown isNode, if_neg]
  rintro rfl
  exact apart below

theorem WellFormed.subtree_grown_self (wellFormed : document.WellFormed)
    (holds : (document.data? parent).any NodeData.canHoldChildren = true)
    (data : NodeData) :
    (document.grown parent data).subtree document.nodeCount =
      [document.nodeCount] := by
  obtain ⟨_, present, _⟩ := (Option.any_eq_true _ _).mp holds
  have isNode := lt_of_data?_eq_some present
  rw [(wellFormed.grown holds data).subtree_eq (by simp),
    children_grown isNode, if_neg (Nat.ne_of_lt isNode).symm,
    children_of_absent (Nat.le_refl _), subtrees_nil]

/-- A subtree ends with the subtree of its last child. -/
theorem WellFormed.subtree_split (wellFormed : document.WellFormed)
    {inner outer : NodeId} (last : document.lastChild? outer = some inner) :
    ∃ before, document.children outer = before ++ [inner] ∧
      document.subtree outer =
        outer :: document.subtrees before ++ document.subtree inner := by
  obtain ⟨before, children⟩ := List.getLast?_eq_some_iff.mp last
  have inside := wellFormed.parent_lt (wellFormed.hangsUnder_of_lastChild? last)
  refine ⟨before, children, ?_⟩
  rw [wellFormed.subtree_eq inside, children, subtrees, List.flatMap_append,
    List.flatMap_singleton]
  rfl

namespace Rightmost

variable {path : List NodeId} {node : NodeId}

theorem of_suffix (rightmost : document.Rightmost path)
    {shorter : List NodeId} (suffix : shorter <:+ path) :
    document.Rightmost shorter :=
  List.IsChain.suffix rightmost suffix

theorem congr {other : Document} (rightmost : document.Rightmost path)
    (same : ∀ id ∈ path.tail, other.lastChild? id = document.lastChild? id) :
    other.Rightmost path := by
  induction path with
  | nil => exact List.isChain_nil
  | cons inner path induction =>
      cases path with
      | nil => exact List.isChain_singleton _
      | cons outer path =>
          obtain ⟨last, rest⟩ := List.isChain_cons_cons.mp rightmost
          refine List.isChain_cons_cons.mpr ⟨?_, ?_⟩
          · rw [same outer (by simp)]
            exact last
          · exact induction rest fun id member =>
              same id (List.mem_cons_of_mem _ member)

/-- The first node of a path lies at or below all of them. -/
theorem inSubtree (wellFormed : document.WellFormed)
    (rightmost : document.Rightmost (node :: path)) :
    ∀ outer ∈ path, Relation.TransGen document.HangsUnder node outer := by
  induction path generalizing node with
  | nil => nofun
  | cons outer path induction =>
      obtain ⟨last, rest⟩ := List.isChain_cons_cons.mp rightmost
      have hangs := wellFormed.hangsUnder_of_lastChild? last
      intro other member
      rcases List.mem_cons.mp member with rfl | further
      · exact .single hangs
      · exact .head hangs (induction rest other further)

theorem not_mem (wellFormed : document.WellFormed)
    (rightmost : document.Rightmost (node :: path)) : node ∉ path :=
  fun member =>
    wellFormed.acyclic node (rightmost.inSubtree wellFormed node member)

/-- The subtree of the last node of a path ends with that of the first. -/
theorem subtree_suffix (wellFormed : document.WellFormed)
    (rightmost : document.Rightmost (node :: path))
    (ends : (node :: path).getLast? = some top) :
    document.subtree node <:+ document.subtree top := by
  induction path generalizing node with
  | nil =>
      cases ends
      exact List.suffix_rfl
  | cons outer path induction =>
      obtain ⟨last, rest⟩ := List.isChain_cons_cons.mp rightmost
      obtain ⟨before, _, split⟩ := wellFormed.subtree_split last
      rw [List.getLast?_cons_cons] at ends
      exact List.IsSuffix.trans ⟨_, split.symm⟩ (induction rest ends)

section Grown

variable (wellFormed : document.WellFormed)
  (holds : (document.data? parent).any NodeData.canHoldChildren = true)

include wellFormed holds

private theorem subtree_grown_outer {inner outer : NodeId}
    (last : document.lastChild? outer = some inner)
    (below : document.InSubtree parent inner)
    (grown : (document.grown parent data).subtree inner =
      document.subtree inner ++ [document.nodeCount]) :
    (document.grown parent data).subtree outer =
      document.subtree outer ++ [document.nodeCount] := by
  obtain ⟨_, present, _⟩ := (Option.any_eq_true _ _).mp holds
  have isNode := lt_of_data?_eq_some present
  have hangs := wellFormed.hangsUnder_of_lastChild? last
  have different : outer ≠ parent := by
    rintro rfl
    exact wellFormed.not_inSubtree_of_hangsUnder hangs below
  have lastLater : (document.grown parent data).lastChild? outer =
      some inner := by
    rw [lastChild?, children_grown isNode, if_neg different]
    exact last
  obtain ⟨before, children, split⟩ := wellFormed.subtree_split last
  obtain ⟨beforeLater, childrenLater, splitLater⟩ :=
    (wellFormed.grown holds data).subtree_split lastLater
  rw [children_grown isNode, if_neg different, children] at childrenLater
  cases (List.append_left_inj [inner]).mp childrenLater
  -- The earlier children have nothing in common with the last one.
  have others : (document.grown parent data).subtrees before =
      document.subtrees before := by
    refine List.flatMap_congr fun child member => ?_
    have isChild : child ∈ document.children outer := by simp [children, member]
    apply wellFormed.subtree_grown_of_apart holds data
      (wellFormed.child_lt isChild)
    intro belowChild
    have same := wellFormed.eq_of_common_descendant
      ((wellFormed.mem_children outer child).mp isChild) hangs belowChild below
    have distinct := wellFormed.nodup outer
    rw [children, List.nodup_append] at distinct
    exact distinct.2.2 child member inner (List.mem_singleton_self _) same
  rw [splitLater, split, others, grown, List.append_assoc]

/-- What comes last at some node of a path comes last at its end. -/
private theorem subtree_grown_path {node : NodeId}
    (rightmost : document.Rightmost (node :: path))
    (ends : (node :: path).getLast? = some top)
    (below : document.InSubtree parent node)
    (grown : (document.grown parent data).subtree node =
      document.subtree node ++ [document.nodeCount]) :
    (document.grown parent data).subtree top =
      document.subtree top ++ [document.nodeCount] := by
  induction path generalizing node with
  | nil =>
      cases ends
      exact grown
  | cons outer path induction =>
      obtain ⟨last, rest⟩ := List.isChain_cons_cons.mp rightmost
      rw [List.getLast?_cons_cons] at ends
      exact induction rest ends
        (.tail below (wellFormed.hangsUnder_of_lastChild? last))
        (subtree_grown_outer wellFormed holds last below grown)

/-- A node added at the right edge comes last in document order. -/
theorem subtree_grown (rightmost : document.Rightmost (parent :: path))
    (ends : (parent :: path).getLast? = some top) (data : NodeData) :
    (document.grown parent data).subtree top =
      document.subtree top ++ [document.nodeCount] := by
  obtain ⟨_, present, _⟩ := (Option.any_eq_true _ _).mp holds
  have isNode := lt_of_data?_eq_some present
  have others : (document.grown parent data).subtrees
      (document.children parent) =
        document.subtrees (document.children parent) := by
    refine List.flatMap_congr fun child member => ?_
    apply wellFormed.subtree_grown_of_apart holds data
      (wellFormed.child_lt member)
    exact wellFormed.not_inSubtree_of_hangsUnder
      ((wellFormed.mem_children parent child).mp member)
  refine subtree_grown_path wellFormed holds rightmost ends .refl ?_
  rw [(wellFormed.grown holds data).subtree_eq
      (Nat.lt_of_lt_of_le isNode (by simp)),
    children_grown isNode, if_pos rfl, subtrees, List.flatMap_append,
    ← subtrees, others, List.flatMap_singleton,
    wellFormed.subtree_grown_self holds, wellFormed.subtree_eq isNode]
  rfl

/-- The new node lengthens the path to which it was added. -/
theorem grown (rightmost : document.Rightmost (parent :: path))
    (data : NodeData) :
    (document.grown parent data).Rightmost
      (document.nodeCount :: parent :: path) := by
  obtain ⟨_, present, _⟩ := (Option.any_eq_true _ _).mp holds
  have isNode := lt_of_data?_eq_some present
  refine List.isChain_cons_cons.mpr ⟨?_, ?_⟩
  · rw [lastChild?, children_grown isNode, if_pos rfl, List.getLast?_concat]
  · refine rightmost.congr fun id member => ?_
    rw [List.tail_cons] at member
    rw [lastChild?, lastChild?, children_grown isNode, if_neg]
    rintro rfl
    exact rightmost.not_mem wellFormed member

end Grown

end Rightmost

end MarkupHarden.Dom.Document
