import MarkupHarden.Proofs.Dom.Growth
import MarkupHarden.Proofs.Dom.Siblings

/-!
# Document order

The successor of a node is found from its links alone, by climbing where there
is no child.  Starting at the top of a subtree, successors run through the
subtree in document order and then end, and a cursor answers with those of them
that it accepts, also when elements and texts change from one call to the next.
-/

namespace MarkupHarden.Dom

namespace Document

variable {document after : Document} {top id : NodeId}

/-! ### Successors -/

/-- What is found by climbing from a node up to `top`: the next sibling of the
first node on the way that has one. -/
inductive Climbs (document : Document) (top : NodeId) :
    NodeId → Option NodeId → Prop where
  | top : Climbs document top top none
  | sibling {id next : NodeId} :
      id ≠ top →
      document.nextSibling? id = some next →
      Climbs document top id (some next)
  | outermost {id : NodeId} :
      id ≠ top →
      document.nextSibling? id = none →
      document.parent? id = none →
      Climbs document top id none
  | parent {id parent : NodeId} {found : Option NodeId} :
      id ≠ top →
      document.nextSibling? id = none →
      document.parent? id = some parent →
      Climbs document top parent found →
      Climbs document top id found

/-- The first child of a node or, if it has none, what is found by climbing. -/
inductive Succeeds (document : Document) (top id : NodeId) :
    Option NodeId → Prop where
  | child {child : NodeId} :
      document.firstChild? id = some child →
      Succeeds document top id (some child)
  | climb {found : Option NodeId} :
      document.firstChild? id = none →
      document.Climbs top id found →
      Succeeds document top id found

private theorem WellFormed.climbs (wellFormed : document.WellFormed)
    (top id : NodeId) :
    document.Climbs top id
      (((document.inclusiveAncestors id).takeWhile (· ≠ top)).findSome?
        document.nextSibling?) := by
  obtain ⟨rank, _, increases⟩ := wellFormed.exists_rank
  induction height : rank id using Nat.strong_induction_on
    generalizing id with
  | _ height induction =>
      rw [wellFormed.inclusiveAncestors_eq]
      by_cases atTop : id = top
      · subst atTop
        simp only [List.takeWhile_cons, ne_eq, not_true_eq_false, decide_false,
          Bool.false_eq_true, if_false, List.findSome?_nil]
        exact .top
      · simp only [List.takeWhile_cons, ne_eq, atTop, not_false_eq_true,
          decide_true, if_true, List.findSome?_cons]
        cases next : document.nextSibling? id with
        | some next => exact .sibling atTop next
        | none =>
            cases hangs : document.parent? id with
            | none => exact .outermost atTop next hangs
            | some parent =>
                have smaller := increases id parent hangs
                apply Climbs.parent atTop next hangs
                exact induction (rank parent) (by omega) parent rfl

theorem WellFormed.succeeds_following? (wellFormed : document.WellFormed)
    (top id : NodeId) : document.Succeeds top id (document.following? id top) := by
  unfold following?
  cases first : document.firstChild? id with
  | some child => exact .child first
  | none => exact .climb first (wellFormed.climbs top id)

/-! ### All successors -/

private theorem chain_of_leads (wellFormed : document.WellFormed)
    (inside : top < document.nodeCount) {candidate : Option NodeId}
    {pending : List NodeId} (leads : document.Leads top candidate pending) :
    Chain (document.following? · top) candidate pending := by
  induction pending generalizing candidate with
  | nil =>
      cases candidate with
      | none => exact .done
      | some id =>
          obtain ⟨later, split, _⟩ := leads.step wellFormed inside
          contradiction
  | cons first pending induction =>
      cases candidate with
      | none =>
          have done : first :: pending = [] := leads
          contradiction
      | some id =>
          obtain ⟨later, split, further⟩ := leads.step wellFormed inside
          obtain ⟨rfl, rfl⟩ := List.cons.inj split
          exact .step (induction further)

theorem WellFormed.chain_descendants (wellFormed : document.WellFormed)
    (top : NodeId) :
    Chain (document.following? · top)
      (if document.contains top then some top else none)
      (document.descendants top) := by
  rw [descendants_eq_subtree wellFormed]
  by_cases inside : top < document.nodeCount
  · exact chain_of_leads wellFormed inside (.start document top)
  · have outside : document.contains top ≠ true := fun found =>
      inside (contains_iff.mp found)
    rw [if_neg outside, subtree_of_absent (Nat.le_of_not_lt inside)]
    exact .done

theorem WellFormed.descendants_eq (wellFormed : document.WellFormed)
    (inside : top < document.nodeCount) :
    document.descendants top =
      top :: (document.children top).flatMap document.descendants := by
  have same : document.descendants = document.subtree := by
    funext id
    exact descendants_eq_subtree wellFormed id
  rw [same]
  exact wellFormed.subtree_eq inside

/-! ### Changes between calls -/

/-- A document in which other elements and other texts may stand in the places
of the elements and texts of `document`. -/
inductive Retouched (document : Document) : Document → Prop where
  | unchanged : Retouched document document
  | element {after : Document} {id : NodeId} {old : Element} (new : Element) :
      Retouched document after →
      after.element? id = some old →
      Retouched document (after.setData id (.element new))
  | text {after : Document} {id : NodeId} {old : String} (new : String) :
      Retouched document after →
      after.data? id = some (.text old) →
      Retouched document (after.setData id (.text new))

namespace Retouched

theorem sameLinks (retouched : document.Retouched after) :
    SameLinks document after := by
  induction retouched with
  | unchanged => exact .refl document
  | element new _ _ same => exact same.trans (.setData _ _ _)
  | text new _ _ same => exact same.trans (.setData _ _ _)

theorem kind? (retouched : document.Retouched after) :
    after.kind? = document.kind? := by
  induction retouched with
  | unchanged => rfl
  | element new _ present same =>
      rw [kind?_setData_element present]
      exact same
  | @text after id old new _ present same =>
      rw [← same]
      funext other
      unfold Document.kind?
      rw [data?_setData]
      split
      next isHere =>
        rw [← isHere, present]
        rfl
      next => rfl

theorem wellFormed (retouched : document.Retouched after)
    (wellFormed : document.WellFormed) : after.WellFormed := by
  induction retouched with
  | unchanged => exact wellFormed
  | element new _ present before => exact before.setData_element new present
  | text new _ present before => exact before.setData_text present new

end Retouched

end Document

namespace Cursor

variable {document : Document} {cursor : Cursor}

/-- A cursor after a number of calls, each of which is given a document of its
own. -/
def advanced (cursor : Cursor) (documents : Nat → Document) : Nat → Cursor
  | 0 => cursor
  | calls + 1 =>
      ((cursor.advanced documents calls).next (documents calls)).2

/-- The answer to the next call after a number of calls. -/
def answer (cursor : Cursor) (documents : Nat → Document) (calls : Nat) :
    Option NodeId :=
  ((cursor.advanced documents calls).next (documents calls)).1

/-- What a cursor still has to answer. -/
inductive Owes (document : Document) (cursor : Cursor) : List NodeId → Prop where
  | finished : cursor.finished = true → Owes document cursor []
  | absent :
      cursor.finished = false →
      cursor.passed = none →
      document.nodeCount ≤ cursor.top →
      Owes document cursor []
  | walking {pending : List NodeId} :
      cursor.top < document.nodeCount →
      pending.length ≤ document.nodeCount →
      cursor.Leads document pending →
      Owes document cursor (pending.filter (cursor.stopsAt document))

/-- A cursor that finds nothing is finished. -/
private theorem finished_of_seek {limit : Nat} {candidate : Option NodeId}
    (nothing : (cursor.seek document limit candidate).1 = none) :
    (cursor.seek document limit candidate).2.finished = true := by
  induction limit generalizing candidate with
  | zero => rfl
  | succ limit induction =>
      cases candidate with
      | none => rfl
      | some id =>
          rw [seek] at nothing ⊢
          split at nothing
          · contradiction
          next skipped =>
            rw [if_neg skipped]
            exact induction nothing

private theorem finished_of_next
    (nothing : (cursor.next document).1 = none) :
    (cursor.next document).2.finished = true := by
  unfold next at nothing ⊢
  split
  next done => exact done
  next unfinished =>
    rw [if_neg unfinished] at nothing
    exact finished_of_seek nothing

/-- A call answers with the first of what a cursor owes, and owes the rest. -/
private theorem Owes.next (wellFormed : document.WellFormed)
    {other : Document} (retouched : document.Retouched other)
    {owed : List NodeId} (owes : Owes document cursor owed) :
    (cursor.next other).1 = owed.head? ∧
      Owes document (cursor.next other).2 owed.tail := by
  have same := retouched.sameLinks
  cases owes with
  | finished done =>
      have stays : cursor.next other = (none, cursor) := by
        rw [Cursor.next, if_pos done]
      rw [stays]
      exact ⟨rfl, .finished done⟩
  | absent unfinished fresh outside =>
      have unknown : other.contains cursor.top = false := by
        rw [same.contains]
        simpa [Document.contains] using outside
      have nothing : (cursor.next other).1 = none := by
        rw [Cursor.next, if_neg (by simp [unfinished]), fresh]
        simp [unknown, seek]
      exact ⟨nothing, .finished (finished_of_next nothing)⟩
  | @walking pending inside short leads =>
      have stops : cursor.stopsAt other = cursor.stopsAt document := by
        funext id
        rw [stopsAt_eq, stopsAt_eq, retouched.kind?]
      have advances := next_advances (retouched.wellFormed wellFormed)
        (same.nodeCount ▸ inside) (same.cursorLeads leads)
        (same.nodeCount ▸ short)
      rw [Advances, stops] at advances
      cases owed : pending.filter (cursor.stopsAt document) with
      | nil =>
          rw [owed] at advances
          exact ⟨advances, .finished (finished_of_next advances)⟩
      | cons id others =>
          rw [owed] at advances
          obtain ⟨later, outcome, rest, fewer, further⟩ := advances
          rw [outcome, rest]
          refine ⟨rfl, ?_⟩
          exact .walking inside (fewer.trans short)
            (same.symm.cursorLeads further)

theorem owes_advanced (wellFormed : document.WellFormed)
    {documents : Nat → Document}
    (retouched : ∀ call, document.Retouched (documents call))
    {owed : List NodeId} (owes : Owes document cursor owed) (calls : Nat) :
    Owes document (cursor.advanced documents calls) (owed.drop calls) := by
  induction calls with
  | zero => exact owes
  | succ calls induction =>
      rw [advanced, ← List.tail_drop]
      exact (induction.next wellFormed (retouched calls)).2

theorem answer_eq (wellFormed : document.WellFormed)
    {documents : Nat → Document}
    (retouched : ∀ call, document.Retouched (documents call))
    {owed : List NodeId} (owes : Owes document cursor owed) (calls : Nat) :
    cursor.answer documents calls = owed[calls]? := by
  have now := owes_advanced wellFormed retouched owes calls
  rw [answer, (now.next wellFormed (retouched calls)).1, List.head?_drop]

/-- A new cursor owes the nodes of its subtree that it accepts. -/
theorem owes_start (wellFormed : document.WellFormed) (top : NodeId)
    (kinds : KindSet) :
    Owes document { top, kinds }
      ((document.subtree top).filter fun id =>
        (document.kind? id).any kinds.accepts) := by
  by_cases inside : top < document.nodeCount
  · exact .walking inside (wellFormed.length_subtree_le top)
      (.start document top kinds)
  · have outside := Nat.le_of_not_lt inside
    rw [Document.subtree_of_absent outside]
    exact .absent rfl rfl outside

end Cursor

namespace Document

variable {document : Document}

/-- Successors run through a subtree in document order and end there, and every
cursor answers with those that it accepts, and then with nothing. -/
theorem WellFormed.walks (wellFormed : document.WellFormed) (top : NodeId) :
    (∀ id, document.Succeeds top id (document.following? id top)) ∧
    Chain (document.following? · top)
      (if document.contains top then some top else none)
      (document.descendants top) ∧
    (top < document.nodeCount →
      document.descendants top =
        top :: (document.children top).flatMap document.descendants) ∧
    (document.nodeCount ≤ top → document.descendants top = []) ∧
    (∀ id, id ∈ document.descendants top ↔
      top < document.nodeCount ∧ document.InSubtree id top) ∧
    (document.descendants top).Nodup ∧
    (∀ (kinds : KindSet) (documents : Nat → Document),
      (∀ call, document.Retouched (documents call)) → ∀ calls,
        ({ top, kinds } : Cursor).answer documents calls =
          ((document.descendants top).filter fun id =>
            (document.kind? id).any kinds.accepts)[calls]?) := by
  refine ⟨wellFormed.succeeds_following? top, wellFormed.chain_descendants top,
    wellFormed.descendants_eq, ?_⟩
  rw [descendants_eq_subtree wellFormed]
  refine ⟨subtree_of_absent, ?_, wellFormed.nodup_subtree top, ?_⟩
  · exact fun id => wellFormed.mem_subtree_iff id top
  · intro kinds documents retouched calls
    exact Cursor.answer_eq wellFormed retouched
      (Cursor.owes_start wellFormed top kinds) calls

/-- A division of a text and of an element around a comment, and a paragraph
behind it. -/
def division : Document :=
  let document := empty.grown root (.element (.html "div"))
  let document := document.grown 1 (.text "first")
  let document := document.grown 1 (.element (.html "b"))
  let document := document.grown 3 (.comment "inside")
  document.grown root (.element (.html "p"))

/-- The division as it is when a cursor makes one of its calls: its text is gone
at the second one, and its inner element has another name from the third on. -/
def divisionAt : Nat → Document
  | 0 => division
  | 1 => division.setData 2 (.text "")
  | _ => (division.setData 2 (.text "")).setData 3 (.element (.html "i"))

theorem walks_division :
    let cursor : Cursor :=
      { top := 1, kinds := (KindSet.only .element).union (.only .comment) }
    division.WellFormed ∧
      division.descendants 1 = [1, 2, 3, 4] ∧
      cursor.answer divisionAt 0 = some 1 ∧
      cursor.answer divisionAt 1 = some 3 ∧
      cursor.answer divisionAt 2 = some 4 ∧
      cursor.answer divisionAt 3 = none ∧
      cursor.answer divisionAt 4 = none := by
  have wellFormed : division.WellFormed :=
    wellFormed_of_hasOrderedLinks (by decide)
  have isText : division.data? 2 = some (.text "first") := by decide
  have emptied := Retouched.text "" .unchanged isText
  have isElement : (division.setData 2 (.text "")).element? 3 =
      some (.html "b") := by decide
  have retouched : ∀ call, division.Retouched (divisionAt call) := by
    rintro (_ | _ | call)
    · exact .unchanged
    · exact emptied
    · exact .element (.html "i") emptied isElement
  have order : division.descendants 1 = [1, 2, 3, 4] := by decide
  obtain ⟨_, _, _, _, _, _, answers⟩ := wellFormed.walks 1
  have answer := answers ((KindSet.only .element).union (.only .comment))
    divisionAt retouched
  rw [order] at answer
  exact ⟨wellFormed, order, answer 0, answer 1, answer 2, answer 3, answer 4⟩

end Document

end MarkupHarden.Dom
