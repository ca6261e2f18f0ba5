import MarkupHarden.Dom.Cursor
import MarkupHarden.Proofs.Dom.Subtree

/-!
# Walks in document order

Asking for one successor after the other lists a subtree in document order,
and a cursor stops at exactly the nodes of its kinds among them.  Both follow
from `following?_split`: the successor of a node heads what remains of the
walk behind that node.
-/

namespace MarkupHarden.Dom

namespace Document

/-- `Remaining top id rest` says that `id` lies at or below `top` and that
`rest` follows the subtree of `id` in the subtree of `top`. -/
inductive Remaining (document : Document) (top : NodeId) :
    NodeId → List NodeId → Prop where
  | top : Remaining document top top []
  | child {parent id : NodeId} {before after rest : List NodeId} :
      Remaining document top parent rest →
      document.children parent = before ++ id :: after →
      Remaining document top id (document.subtrees after ++ rest)

variable {document : Document} {top : NodeId}

theorem Remaining.inSubtree (wellFormed : document.WellFormed)
    {id : NodeId} {rest : List NodeId}
    (remaining : document.Remaining top id rest) :
    document.InSubtree id top := by
  induction remaining with
  | top => exact .refl
  | @child parent id before after rest _ split below =>
      have member : id ∈ document.children parent := by simp [split]
      exact .head ((wellFormed.mem_children parent id).mp member) below

theorem Remaining.ne_top (wellFormed : document.WellFormed)
    {parent id : NodeId} {before after rest : List NodeId}
    (remaining : document.Remaining top parent rest)
    (split : document.children parent = before ++ id :: after) : id ≠ top := by
  rintro rfl
  have member : id ∈ document.children parent := by simp [split]
  exact wellFormed.not_inSubtree_of_hangsUnder
    ((wellFormed.mem_children parent id).mp member)
    (remaining.inSubtree wellFormed)

theorem entryAfter_append {id : NodeId} {before after : List NodeId}
    (absent : id ∉ before) :
    entryAfter id (before ++ id :: after) = after.head? := by
  induction before with
  | nil => simp [entryAfter]
  | cons entry before induction =>
      have different : entry ≠ id := fun same =>
        absent (by simp [same])
      rw [List.cons_append, entryAfter, if_neg different]
      exact induction fun member => absent (List.mem_cons_of_mem _ member)

theorem WellFormed.not_mem_before (wellFormed : document.WellFormed)
    {parent id : NodeId} {before after : List NodeId}
    (split : document.children parent = before ++ id :: after) :
    id ∉ before := by
  have distinct := wellFormed.nodup parent
  rw [split, List.nodup_middle, List.nodup_cons] at distinct
  exact fun early => distinct.1 (List.mem_append_left _ early)

theorem WellFormed.nextSibling?_eq (wellFormed : document.WellFormed)
    {parent id : NodeId} {before after : List NodeId}
    (split : document.children parent = before ++ id :: after) :
    document.nextSibling? id = after.head? := by
  have member : id ∈ document.children parent := by simp [split]
  have hangs : document.parent? id = some parent :=
    (wellFormed.mem_children parent id).mp member
  rw [nextSibling?, hangs, Option.bind_some, split,
    entryAfter_append (wellFormed.not_mem_before split)]

/-- Climbing from a node finds the head of what remains behind it. -/
private theorem climb_split (wellFormed : document.WellFormed)
    {id : NodeId} {rest : List NodeId}
    (remaining : document.Remaining top id rest) :
    match ((document.inclusiveAncestors id).takeWhile (· ≠ top)).findSome?
        document.nextSibling? with
    | none => rest = []
    | some next => ∃ later,
        document.Remaining top next later ∧
          rest = document.subtree next ++ later := by
  induction remaining with
  | top =>
      rw [wellFormed.inclusiveAncestors_eq]
      simp
  | @child parent id before after rest remaining split induction =>
      have notTop := remaining.ne_top wellFormed split
      have member : id ∈ document.children parent := by simp [split]
      have hangs : document.parent? id = some parent :=
        (wellFormed.mem_children parent id).mp member
      rw [wellFormed.inclusiveAncestors_eq, hangs]
      simp only [List.takeWhile_cons, ne_eq, notTop, not_false_eq_true,
        decide_true, if_true, List.findSome?_cons,
        wellFormed.nextSibling?_eq split]
      cases after with
      | nil => simpa using induction
      | cons next after =>
          refine ⟨document.subtrees after ++ rest, ?_, ?_⟩
          · have further : document.children parent =
                (before ++ [id]) ++ next :: after := by simpa using split
            exact .child remaining further
          · simp

/-- The successor of a node heads what remains of the walk behind it. -/
theorem following?_split (wellFormed : document.WellFormed)
    {id : NodeId} {rest : List NodeId}
    (remaining : document.Remaining top id rest) :
    match document.following? id top with
    | none => document.subtrees (document.children id) ++ rest = []
    | some next => ∃ later,
        document.Remaining top next later ∧
          document.subtrees (document.children id) ++ rest =
            document.subtree next ++ later := by
  unfold following?
  cases below : document.children id with
  | nil =>
      simp only [firstChild?, below, List.head?_nil, subtrees_nil,
        List.nil_append]
      exact climb_split wellFormed remaining
  | cons child after =>
      simp only [firstChild?, below, List.head?_cons]
      refine ⟨document.subtrees after ++ rest, ?_, ?_⟩
      · have first : document.children id = [] ++ child :: after := below
        exact .child remaining first
      · simp

/-- The candidate from which a walk below `top` still visits `pending`. -/
def Leads (document : Document) (top : NodeId) (candidate : Option NodeId)
    (pending : List NodeId) : Prop :=
  match candidate with
  | none => pending = []
  | some id => ∃ rest, document.Remaining top id rest ∧
      pending = document.subtree id ++ rest

theorem Leads.start (document : Document) (top : NodeId) :
    document.Leads top (if document.contains top then some top else none)
      (document.subtree top) := by
  by_cases inside : document.contains top = true
  · rw [if_pos inside]
    exact ⟨[], .top, by simp⟩
  · have absent : document.nodeCount ≤ top :=
      Nat.le_of_not_lt fun below => inside (contains_iff.mpr below)
    rw [if_neg inside]
    exact subtree_of_absent absent

theorem Remaining.lt_of_lt (wellFormed : document.WellFormed)
    {id : NodeId} {rest : List NodeId}
    (remaining : document.Remaining top id rest)
    (inside : top < document.nodeCount) : id < document.nodeCount :=
  WellFormed.lt_of_inSubtree (remaining.inSubtree wellFormed) inside

/-- A walk visits its candidate and goes on with what is left. -/
theorem Leads.step (wellFormed : document.WellFormed)
    (inside : top < document.nodeCount) {id : NodeId} {pending : List NodeId}
    (leads : document.Leads top (some id) pending) :
    ∃ later, pending = id :: later ∧
      document.Leads top (document.following? id top) later := by
  obtain ⟨rest, remaining, rfl⟩ := leads
  refine ⟨document.subtrees (document.children id) ++ rest, ?_, ?_⟩
  · rw [wellFormed.subtree_eq (remaining.lt_of_lt wellFormed inside)]
    rfl
  · have split := following?_split wellFormed remaining
    unfold Leads
    cases next : document.following? id top with
    | none => simpa [next] using split
    | some next => simpa [next] using split

theorem walk_eq (wellFormed : document.WellFormed)
    (inside : top < document.nodeCount) :
    ∀ limit candidate pending, document.Leads top candidate pending →
      pending.length ≤ limit → document.walk top limit candidate = pending := by
  intro limit
  induction limit with
  | zero =>
      intro candidate pending _ short
      rw [List.eq_nil_of_length_eq_zero (Nat.le_zero.mp short), walk]
  | succ limit induction =>
      intro candidate pending leads short
      cases candidate with
      | none =>
          have done : pending = [] := leads
          simp [done, walk]
      | some id =>
          obtain ⟨later, rfl, further⟩ := leads.step wellFormed inside
          rw [walk, induction _ later further (Nat.le_of_succ_le_succ short)]

theorem descendants_eq_subtree (wellFormed : document.WellFormed)
    (top : NodeId) : document.descendants top = document.subtree top := by
  by_cases inside : top < document.nodeCount
  · exact walk_eq wellFormed inside _ _ _ (Leads.start document top)
      (wellFormed.length_subtree_le top)
  · have outside : document.contains top ≠ true := fun found =>
      inside (contains_iff.mp found)
    rw [subtree_of_absent (Nat.le_of_not_lt inside), descendants,
      if_neg outside]
    cases document.nodeCount <;> rfl

end Document

namespace Cursor

variable {document : Document}

/-- What a cursor still has to look at, accepted or not. -/
def Leads (cursor : Cursor) (document : Document) (pending : List NodeId) :
    Prop :=
  cursor.finished = false ∧
    document.Leads cursor.top
      (match cursor.passed with
        | none =>
            if document.contains cursor.top then some cursor.top else none
        | some passed => document.following? passed cursor.top)
      pending

/-- Whether a cursor stops at a node. -/
def stopsAt (cursor : Cursor) (document : Document) (id : NodeId) : Bool :=
  (document.kind? id).any cursor.kinds.accepts

theorem Leads.start (document : Document) (top : NodeId) (kinds : KindSet) :
    ({ top, kinds } : Cursor).Leads document (document.subtree top) :=
  ⟨rfl, Document.Leads.start document top⟩

theorem stopsAt_eq (cursor : Cursor) (id : NodeId) :
    cursor.stopsAt document id =
      (document.kind? id).any cursor.kinds.accepts := rfl

/-- What a step of a cursor comes to when `pending` is still to be looked at:
the first node at which it stops, and what is pending behind it. -/
def Advances (cursor : Cursor) (document : Document) (pending : List NodeId)
    (outcome : Option NodeId × Cursor) : Prop :=
  match pending.filter (cursor.stopsAt document) with
  | [] => outcome.1 = none
  | id :: others => ∃ later,
      outcome = (some id, { cursor with passed := some id }) ∧
        others = later.filter (cursor.stopsAt document) ∧
        later.length ≤ pending.length ∧
        ({ cursor with passed := some id } : Cursor).Leads document later

private theorem seek_advances (wellFormed : document.WellFormed)
    {cursor : Cursor} (inside : cursor.top < document.nodeCount)
    (unfinished : cursor.finished = false) :
    ∀ limit candidate pending,
      document.Leads cursor.top candidate pending → pending.length < limit →
        cursor.Advances document pending
          (cursor.seek document limit candidate) := by
  intro limit
  induction limit with
  | zero =>
      intro candidate pending _ short
      exact absurd short (Nat.not_lt_zero _)
  | succ limit induction =>
      intro candidate pending leads short
      cases candidate with
      | none =>
          have done : pending = [] := leads
          subst pending
          rfl
      | some id =>
          obtain ⟨later, rfl, further⟩ := leads.step wellFormed inside
          rw [seek, ← stopsAt_eq]
          by_cases stops : cursor.stopsAt document id = true
          · rw [if_pos stops, Advances, List.filter_cons_of_pos stops]
            exact ⟨later, rfl, rfl, by simp, unfinished, further⟩
          · rw [if_neg stops, Advances, List.filter_cons_of_neg stops]
            have rest := induction _ later further
              (Nat.lt_of_succ_lt_succ short)
            rw [Advances] at rest
            split at rest
            · exact rest
            · obtain ⟨last, found, same, fewer, leads⟩ := rest
              exact ⟨last, found, same, Nat.le_succ_of_le fewer, leads⟩

theorem next_advances (wellFormed : document.WellFormed) {cursor : Cursor}
    {pending : List NodeId} (inside : cursor.top < document.nodeCount)
    (leads : cursor.Leads document pending)
    (short : pending.length ≤ document.nodeCount) :
    cursor.Advances document pending (cursor.next document) := by
  rw [next, if_neg (by simp [leads.1])]
  exact seek_advances wellFormed inside leads.1 _ _ _ leads.2
    (Nat.lt_succ_of_le short)

end Cursor

end MarkupHarden.Dom
