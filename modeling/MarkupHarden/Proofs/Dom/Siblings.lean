import MarkupHarden.Proofs.Dom.Walk

/-!
# Siblings

The siblings of a node are the entries next to it in the list that it stands in.
Following them from the first child of a node on passes all of its children, and
so does following them backwards from the last child.
-/

namespace MarkupHarden.Dom

theorem NodeData.canHoldChildren_iff (data : NodeData) :
    data.canHoldChildren = true ↔ data.kind = .document ∨ data.kind = .element := by
  cases data <;> simp [canHoldChildren, kind]

namespace Document

/-- Following `next` from a node on passes the given nodes and then ends. -/
inductive Chain (next : NodeId → Option NodeId) :
    Option NodeId → List NodeId → Prop where
  | done : Chain next none []
  | step {id : NodeId} {rest : List NodeId} :
      Chain next (next id) rest → Chain next (some id) (id :: rest)

namespace Chain

variable {next : NodeId → Option NodeId} {start : Option NodeId}
  {ids : List NodeId}

theorem head?_eq (chain : Chain next start ids) : ids.head? = start := by
  cases chain with
  | done => rfl
  | step _ => rfl

theorem next_eq {id : NodeId} {before after : List NodeId}
    (chain : Chain next start (before ++ id :: after)) :
    next id = after.head? := by
  induction before generalizing start with
  | nil =>
      cases chain with
      | step rest => exact rest.head?_eq.symm
  | cons _ before induction =>
      cases chain with
      | step rest => exact induction rest

theorem unique {others : List NodeId} (chain : Chain next start ids)
    (other : Chain next start others) : ids = others := by
  induction chain generalizing others with
  | done =>
      cases other
      rfl
  | step _ induction =>
      cases other with
      | step rest => rw [induction rest]

end Chain

variable {document : Document}

theorem siblings_of_parentless {id : NodeId}
    (parentless : document.parent? id = none) :
    document.previousSibling? id = none ∧ document.nextSibling? id = none := by
  rw [previousSibling?, nextSibling?, parentless]
  exact ⟨rfl, rfl⟩

namespace WellFormed

variable {parent id : NodeId} {before after : List NodeId}

/-! ### Neighbours -/

theorem previousSibling?_eq (wellFormed : document.WellFormed)
    (split : document.children parent = before ++ id :: after) :
    document.previousSibling? id = before.getLast? := by
  have member : id ∈ document.children parent := by simp [split]
  have hangs : document.parent? id = some parent :=
    (wellFormed.mem_children parent id).mp member
  have distinct := wellFormed.nodup parent
  rw [split, List.nodup_middle, List.nodup_cons] at distinct
  have absent : id ∉ after.reverse := fun late =>
    distinct.1 (List.mem_append_right _ (List.mem_reverse.mp late))
  have reversed : (document.children parent).reverse =
      after.reverse ++ id :: before.reverse := by
    simp [split]
  rw [previousSibling?, hangs, Option.bind_some, reversed,
    entryAfter_append absent, List.head?_reverse]

theorem exists_split (wellFormed : document.WellFormed)
    (hangs : document.parent? id = some parent) :
    ∃ before after, document.children parent = before ++ id :: after :=
  List.append_of_mem ((wellFormed.mem_children parent id).mpr hangs)

theorem nextSibling?_eq_some_iff (wellFormed : document.WellFormed)
    {left right : NodeId} :
    document.nextSibling? left = some right ↔
      ∃ parent before after,
        document.children parent = before ++ left :: right :: after := by
  constructor
  · intro next
    obtain ⟨parent, hangs, _⟩ := Option.bind_eq_some_iff.mp next
    obtain ⟨before, after, split⟩ := wellFormed.exists_split hangs
    rw [wellFormed.nextSibling?_eq split] at next
    obtain ⟨rest, rfl⟩ := List.head?_eq_some_iff.mp next
    exact ⟨parent, before, rest, split⟩
  · rintro ⟨parent, before, after, split⟩
    rw [wellFormed.nextSibling?_eq split]
    rfl

theorem previousSibling?_eq_some_iff (wellFormed : document.WellFormed)
    {left right : NodeId} :
    document.previousSibling? right = some left ↔
      ∃ parent before after,
        document.children parent = before ++ left :: right :: after := by
  constructor
  · intro previous
    obtain ⟨parent, hangs, _⟩ := Option.bind_eq_some_iff.mp previous
    obtain ⟨before, after, split⟩ := wellFormed.exists_split hangs
    rw [wellFormed.previousSibling?_eq split] at previous
    obtain ⟨rest, rfl⟩ := List.getLast?_eq_some_iff.mp previous
    exact ⟨parent, rest, after, by simpa using split⟩
  · rintro ⟨parent, before, after, split⟩
    have later : document.children parent =
        (before ++ [left]) ++ right :: after := by simpa using split
    rw [wellFormed.previousSibling?_eq later, List.getLast?_concat]

/-! ### Lists of children -/

private theorem forward_chain (wellFormed : document.WellFormed)
    (split : document.children parent = before ++ after) :
    Chain document.nextSibling? after.head? after := by
  induction after generalizing before with
  | nil => exact .done
  | cons id rest induction =>
      have further : document.children parent = (before ++ [id]) ++ rest := by
        simpa using split
      refine .step ?_
      rw [wellFormed.nextSibling?_eq split]
      exact induction further

private theorem backward_chain (wellFormed : document.WellFormed)
    (split : document.children parent = before.reverse ++ after) :
    Chain document.previousSibling? before.head? before := by
  induction before generalizing after with
  | nil => exact .done
  | cons id rest induction =>
      have further : document.children parent = rest.reverse ++ id :: after := by
        simpa using split
      refine .step ?_
      rw [wellFormed.previousSibling?_eq further, List.getLast?_reverse]
      exact induction further

theorem chain_nextSibling? (wellFormed : document.WellFormed)
    (parent : NodeId) :
    Chain document.nextSibling? (document.firstChild? parent)
      (document.children parent) := by
  have whole : document.children parent =
      [] ++ document.children parent := rfl
  exact wellFormed.forward_chain whole

theorem chain_previousSibling? (wellFormed : document.WellFormed)
    (parent : NodeId) :
    Chain document.previousSibling? (document.lastChild? parent)
      (document.children parent).reverse := by
  have whole : document.children parent =
      (document.children parent).reverse.reverse ++ [] := by simp
  have chain := wellFormed.backward_chain whole
  rw [List.head?_reverse] at chain
  exact chain

/-- Only documents and elements have children. -/
theorem kind_of_children (wellFormed : document.WellFormed)
    (parental : document.children id ≠ []) :
    document.kind? id = some .document ∨ document.kind? id = some .element := by
  obtain ⟨child, member⟩ := List.exists_mem_of_ne_nil _ parental
  obtain ⟨data, present⟩ := exists_data_of_lt (lt_of_mem_children member)
  have canHold : data.canHoldChildren = true := by
    cases holds : data.canHoldChildren with
    | true => rfl
    | false => exact absurd (wellFormed.childless id data present holds) parental
  rw [kind?, present, Option.map_some, Option.some_inj, Option.some_inj]
  exact data.canHoldChildren_iff.mp canHold

theorem length_children_le (wellFormed : document.WellFormed) (id : NodeId) :
    (document.children id).length ≤ document.nodeCount :=
  length_le_of_nodup (wellFormed.nodup id) fun _ member =>
    wellFormed.child_lt member

end WellFormed

end Document

end MarkupHarden.Dom
