import Mathlib.Data.List.Forall2
import MarkupHarden.Proofs.Dom.LinkRequests

/-!
# Imported nodes

An import makes one node for each node of the subtree that it copies, in as many
rounds.  The new nodes form a tree that hangs nowhere and mirrors the subtree:
payloads are equal, and children stand for children in the same order.  Nothing
else changes, and linking the copies one by one comes to the same.
-/

namespace MarkupHarden.Dom.Document

variable {source document after : Document} {id copy : NodeId}

/-! ### Mirrored subtrees -/

/-- The nodes hold the same payload, and their children mirror each other pair by
pair and in order. -/
inductive Mirrors (source after : Document) : NodeId → NodeId → Prop where
  | intro {id copy : NodeId} {data : NodeData} :
      source.data? id = some data →
      after.data? copy = some data →
      List.Forall₂ (Mirrors source after) (source.children id)
        (after.children copy) →
      Mirrors source after id copy

private theorem forall₂_tree (same : after.forest copy = source.forest id) :
    List.Forall₂ (fun child other => source.tree child = after.tree other)
      (source.children id) (after.children copy) := by
  have equal : List.Forall₂ Eq (source.forest id) (after.forest copy) := by
    rw [List.forall₂_eq_eq_eq]
    exact same.symm
  rw [forest, forest, List.forall₂_map_left_iff,
    List.forall₂_map_right_iff] at equal
  exact equal

theorem WellFormed.mirrors_of_tree_eq (wellFormed : after.WellFormed)
    (sourceWellFormed : source.WellFormed) (inside : id < source.nodeCount)
    (copyInside : copy < after.nodeCount)
    (same : after.tree copy = source.tree id) : Mirrors source after id copy := by
  revert copy inside
  refine sourceWellFormed.induction_below (motive := fun id =>
    ∀ {copy}, id < source.nodeCount → copy < after.nodeCount →
      after.tree copy = source.tree id → Mirrors source after id copy) ?_ id
  intro id induction copy inside copyInside same
  obtain ⟨data, present⟩ := exists_data_of_lt inside
  obtain ⟨copied, copyPresent⟩ := exists_data_of_lt copyInside
  rw [wellFormed.tree_eq, sourceWellFormed.tree_eq, present, copyPresent] at same
  injection same with sameData sameForest
  have equal : copied = data := sameData
  obtain ⟨lengths, trees⟩ := List.forall₂_iff_zip.mp (forall₂_tree sameForest)
  apply Mirrors.intro present (equal ▸ copyPresent)
  refine List.forall₂_iff_zip.mpr ⟨lengths, ?_⟩
  intro child other paired
  obtain ⟨member, otherMember⟩ := List.of_mem_zip paired
  exact induction child member (sourceWellFormed.child_lt member)
    (wellFormed.child_lt otherMember) (trees paired).symm

/-- Subtrees that mirror each other have as many nodes. -/
theorem Mirrors.length_subtree (mirrors : Mirrors source after id copy)
    (sourceWellFormed : source.WellFormed) (wellFormed : after.WellFormed) :
    (source.subtree id).length = (after.subtree copy).length := by
  revert copy
  refine sourceWellFormed.induction_below (motive := fun id =>
    ∀ {copy}, Mirrors source after id copy →
      (source.subtree id).length = (after.subtree copy).length) ?_ id
  intro id induction copy mirrors
  obtain ⟨present, copyPresent, children⟩ := mirrors
  have equal : List.Forall₂ Eq
      ((source.children id).map fun child => (source.subtree child).length)
      ((after.children copy).map fun other => (after.subtree other).length) := by
    rw [List.forall₂_map_left_iff, List.forall₂_map_right_iff]
    rw [List.forall₂_iff_zip] at children ⊢
    refine ⟨children.1, fun paired => ?_⟩
    exact induction _ (List.of_mem_zip paired).1 (children.2 paired)
  rw [List.forall₂_eq_eq_eq] at equal
  rw [sourceWellFormed.subtree_eq (lt_of_data?_eq_some present),
    wellFormed.subtree_eq (lt_of_data?_eq_some copyPresent), subtrees, subtrees,
    List.length_cons, List.length_cons, List.length_flatMap,
    List.length_flatMap, equal]

/-! ### Old and new nodes -/

/-- All nodes of `document` are in `after` as they were. -/
def Keeps (document after : Document) : Prop :=
  ∀ id < document.nodeCount, after.node? id = document.node? id

namespace Keeps

theorem parent? (keeps : document.Keeps after) (old : id < document.nodeCount) :
    after.parent? id = document.parent? id := by
  rw [Document.parent?, keeps id old]
  rfl

theorem siblings (keeps : document.Keeps after)
    (wellFormed : document.WellFormed) (old : id < document.nodeCount) :
    after.previousSibling? id = document.previousSibling? id ∧
      after.nextSibling? id = document.nextSibling? id := by
  unfold previousSibling? nextSibling?
  rw [keeps.parent? old]
  cases hangs : document.parent? id with
  | none => exact ⟨rfl, rfl⟩
  | some parent =>
      have children : after.children parent = document.children parent := by
        rw [Document.children, keeps parent (wellFormed.parent_lt hangs)]
        rfl
      simp only [Option.bind_some, children, and_self]

/-- Nothing new lies above a node of `document`. -/
theorem old_of_inSubtree (keeps : document.Keeps after)
    (wellFormed : document.WellFormed) {top : NodeId}
    (below : after.InSubtree id top) (old : id < document.nodeCount) :
    top < document.nodeCount := by
  induction below with
  | refl => exact old
  | tail _ hangs induction =>
      rw [HangsUnder, keeps.parent? induction] at hangs
      exact wellFormed.parent_lt hangs

/-- A subtree below a new node has all new nodes when it is as large as their
number. -/
theorem inSubtree_iff (keeps : document.Keeps after)
    (wellFormed : document.WellFormed) (afterWellFormed : after.WellFormed)
    {top : NodeId} (isNew : document.nodeCount ≤ top)
    (inside : top < after.nodeCount)
    (count : after.nodeCount =
      document.nodeCount + (after.subtree top).length) :
    after.InSubtree id top ↔
      document.nodeCount ≤ id ∧ id < after.nodeCount := by
  have within : after.subtree top ⊆
      List.range' document.nodeCount (after.subtree top).length := by
    intro id member
    obtain ⟨_, below⟩ := (afterWellFormed.mem_subtree_iff id top).mp member
    have bounded := WellFormed.lt_of_inSubtree below inside
    rw [List.mem_range'_1]
    refine ⟨?_, count ▸ bounded⟩
    rw [← Nat.not_lt]
    intro old
    exact Nat.not_lt.mpr isNew (keeps.old_of_inSubtree wellFormed below old)
  have all := ((afterWellFormed.nodup_subtree top).subperm
    within).perm_of_length_le (by rw [List.length_range'])
  have member : id ∈ after.subtree top ↔
      id ∈ List.range' document.nodeCount (after.subtree top).length :=
    all.mem_iff
  rw [afterWellFormed.mem_subtree_iff, List.mem_range'_1, ← count] at member
  constructor
  · exact fun below => member.mp ⟨inside, below⟩
  · exact fun bounds => (member.mpr bounds).2

end Keeps

/-! ### Imports -/

/-- All that `after` has more than `document` is a tree at `copy` that hangs
nowhere and mirrors the subtree of `source` at `id`. -/
structure Imports (source : Document) (id : NodeId) (document after : Document)
    (copy : NodeId) : Prop where
  wellFormed : after.WellFormed
  mirrors : Mirrors source after id copy
  parent? : after.parent? copy = none
  previousSibling? : after.previousSibling? copy = none
  nextSibling? : after.nextSibling? copy = none
  nodeCount : after.nodeCount =
    document.nodeCount + (source.descendants id).length
  inSubtree_iff : ∀ node, after.InSubtree node copy ↔
    document.nodeCount ≤ node ∧ node < after.nodeCount
  keeps : document.Keeps after
  siblings : ∀ old < document.nodeCount,
    after.previousSibling? old = document.previousSibling? old ∧
      after.nextSibling? old = document.nextSibling? old

theorem WellFormed.importNode_imports (wellFormed : document.WellFormed)
    (sourceWellFormed : source.WellFormed) {data : NodeData}
    (present : source.data? id = some data) (notDocument : data ≠ .document) :
    ∃ copy after,
      document.importNode source id = (.ok copy, after) ∧
        document.links.importNode? source.links id =
          some (.ok copy, after.links) ∧
        WorksOff source (source.descendants id).length [(id, copy)]
          (document.create data).2 after ∧
        Imports source id document after copy := by
  have inside := lt_of_data?_eq_some present
  obtain ⟨after, imported, afterWellFormed, payload, detached, tree, kept⟩ :=
    wellFormed.importNode_eq sourceWellFormed present notDocument
  have keeps : document.Keeps after := kept
  obtain ⟨_, alsoImported, works⟩ :=
    sourceWellFormed.importNode_worksOff document present notDocument
  rw [imported] at alsoImported
  obtain ⟨_, rfl⟩ := Prod.mk.inj alsoImported
  rw [← descendants_eq_subtree sourceWellFormed] at works
  have copyInside := lt_of_data?_eq_some payload
  have mirrors := afterWellFormed.mirrors_of_tree_eq sourceWellFormed inside
    copyInside tree
  have count : after.nodeCount =
      document.nodeCount + (source.descendants id).length := by
    have counted := works.nodeCount sourceWellFormed
    rw [nodeCount_create, List.length_singleton] at counted
    omega
  have large : after.nodeCount =
      document.nodeCount + (after.subtree document.nodeCount).length := by
    rw [count, descendants_eq_subtree sourceWellFormed,
      mirrors.length_subtree sourceWellFormed afterWellFormed]
  have linked := wellFormed.importNode?_links sourceWellFormed id
  rw [imported] at linked
  refine ⟨document.nodeCount, after, imported, linked, works, ?_⟩
  obtain ⟨noPrevious, noNext⟩ := siblings_of_parentless detached
  exact {
    wellFormed := afterWellFormed
    mirrors := mirrors
    parent? := detached
    previousSibling? := noPrevious
    nextSibling? := noNext
    nodeCount := count
    inSubtree_iff := fun _ => keeps.inSubtree_iff wellFormed afterWellFormed
      (Nat.le_refl _) copyInside large
    keeps := keeps
    siblings := fun _ old => keeps.siblings wellFormed old }

/-- A quotation of a paragraph with a text and of a comment, before another
paragraph. -/
def quotation : Document :=
  let document := empty.grown root (.element (.html "blockquote"))
  let document := document.grown 1 (.element (.html "p"))
  let document := document.grown 1 (.comment "source")
  let document := document.grown 2 (.text "quoted")
  document.grown root (.element (.html "p"))

/-- A page with a title. -/
def titledPage : Document :=
  let document := empty.grown root (.element (.html "h1"))
  document.grown 1 (.text "Title")

/-- The quotation is copied into four new nodes of the page, and its paragraph
before its comment. -/
theorem importNode_imports_quotation :
    let outcome := titledPage.importNode quotation 1
    (titledPage.WellFormed ∧ quotation.WellFormed) ∧
      outcome.1 = .ok 3 ∧
      titledPage.links.importNode? quotation.links 1 =
        some (.ok 3, outcome.2.links) ∧
      WorksOff quotation 4 [(1, 3)]
        (titledPage.create (.element (.html "blockquote"))).2 outcome.2 ∧
      Imports quotation 1 titledPage outcome.2 3 ∧
      outcome.2.children 3 = [4, 5] := by
  have wellFormed : titledPage.WellFormed :=
    wellFormed_of_hasOrderedLinks (by decide)
  have sourceWellFormed : quotation.WellFormed :=
    wellFormed_of_hasOrderedLinks (by decide)
  have present : quotation.data? 1 = some (.element (.html "blockquote")) := by
    decide
  have size : (quotation.descendants 1).length = 4 := by decide
  obtain ⟨copy, after, imported, linked, works, imports⟩ :=
    wellFormed.importNode_imports sourceWellFormed present nofun
  have copied : (titledPage.importNode quotation 1).1 = .ok 3 := rfl
  rw [imported] at copied
  cases copied
  have children : (titledPage.importNode quotation 1).2.children 3 = [4, 5] := by
    decide
  rw [size] at works
  rw [imported] at children ⊢
  exact ⟨⟨wellFormed, sourceWellFormed⟩, rfl, linked, works, imports, children⟩

end MarkupHarden.Dom.Document
