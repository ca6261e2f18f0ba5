import MarkupHarden.Proofs.Dom.Copying
import MarkupHarden.Proofs.Dom.Relinking

/-!
# Which nodes may be inserted

Appending and replacing decide separately whether a node may become a child.
They agree on everything but document nodes, which can replace another node but
cannot be appended.  As long as no document node is put in the place of another
node, document nodes are nobody's children.
-/

namespace MarkupHarden.Dom.Document

variable {document source : Document} {id parent child old new : NodeId}
  {data : NodeData}

/-! ### Two checks -/

/-- A node may be appended where children are allowed, unless it is a document
node or lies above its new parent. -/
theorem WellFormed.appendRefusal?_eq_none_iff
    (wellFormed : document.WellFormed) :
    document.appendRefusal? parent child = none ↔
      (document.data? parent).any NodeData.canHoldChildren = true ∧
        (∃ kind, document.kind? child = some kind ∧ kind ≠ .document) ∧
          ¬document.InSubtree parent child := by
  rw [← wellFormed.isInclusiveAncestor_iff child parent]
  unfold appendRefusal?
  cases document.data? parent with
  | none => simp
  | some parentData =>
      cases canHold : parentData.canHoldChildren with
      | false => simp [canHold]
      | true =>
          cases document.kind? child with
          | none => simp [canHold]
          | some kind =>
              by_cases isDocument : kind = .document
              · simp [canHold, isDocument]
              · simp [canHold, isDocument]

/-- A node may take the place of another one unless it lies above it. -/
theorem WellFormed.replaceRefusal?_eq_none_iff
    (wellFormed : document.WellFormed) :
    document.replaceRefusal? parent new = none ↔
      new < document.nodeCount ∧ ¬document.InSubtree parent new := by
  rw [← wellFormed.isInclusiveAncestor_iff new parent, ← contains_iff]
  unfold replaceRefusal?
  simp

/-- The nodes that may replace a child are those that could be appended to its
parent, and document nodes. -/
theorem WellFormed.replaceable_iff (wellFormed : document.WellFormed)
    (hangs : document.parent? old = some parent) :
    document.replaceRefusal? parent new = none ↔
      document.appendRefusal? parent new = none ∨
        document.data? new = some .document ∧
          ¬document.InSubtree parent new := by
  have holds : (document.data? parent).any NodeData.canHoldChildren = true := by
    obtain ⟨data, present⟩ := exists_data_of_lt (wellFormed.parent_lt hangs)
    rw [present, Option.any_some]
    cases canHold : data.canHoldChildren with
    | true => rfl
    | false =>
        have member := (wellFormed.mem_children parent old).mpr hangs
        rw [wellFormed.childless parent data present canHold] at member
        contradiction
  rw [wellFormed.replaceRefusal?_eq_none_iff,
    wellFormed.appendRefusal?_eq_none_iff]
  constructor
  · rintro ⟨inside, apart⟩
    obtain ⟨data, present⟩ := exists_data_of_lt inside
    by_cases isDocument : data.kind = .document
    · refine .inr ⟨?_, apart⟩
      cases data with
      | document => exact present
      | _ => contradiction
    · refine .inl ⟨holds, ⟨data.kind, ?_, isDocument⟩, apart⟩
      rw [kind?, present]
      rfl
  · rintro (⟨_, ⟨kind, isKind, _⟩, apart⟩ | ⟨present, apart⟩)
    · obtain ⟨_, present, _⟩ := Option.map_eq_some_iff.mp isKind
      exact ⟨lt_of_data?_eq_some present, apart⟩
    · exact ⟨lt_of_data?_eq_some present, apart⟩

/-! ### Document nodes -/

/-- Document nodes are nobody's children. -/
def DocumentsOutermost (document : Document) : Prop :=
  ∀ id, document.data? id = some .document → document.parent? id = none

namespace DocumentsOutermost

theorem create (outermost : document.DocumentsOutermost) (data : NodeData) :
    (document.create data).2.DocumentsOutermost := by
  intro id isDocument
  rw [parent?_create]
  rw [data?_create] at isDocument
  split at isDocument
  next fresh => exact parent?_of_absent (Nat.le_of_eq fresh.symm)
  next => exact outermost id isDocument

/-- The parent of no other node changes. -/
private theorem of_setParent (outermost : document.DocumentsOutermost)
    (notDocument : document.data? child ≠ some .document)
    (above : Option NodeId) :
    (document.setParent child above).DocumentsOutermost := by
  intro id isDocument
  rw [data?_setParent] at isDocument
  have different : child ≠ id := by
    rintro rfl
    exact notDocument isDocument
  have same : (document.setParent child above).node? id =
      document.node? id := by
    rw [setParent, node?_modifyNode, if_neg different]
  rw [parent?, same]
  exact outermost id isDocument

private theorem orphan (outermost : document.DocumentsOutermost)
    (child : NodeId) :
    (document.setParent child none).DocumentsOutermost := by
  intro id isDocument
  rw [data?_setParent] at isDocument
  have free := outermost id isDocument
  unfold parent? at free ⊢
  rw [setParent, node?_modifyNode]
  split
  · cases document.node? id <;> rfl
  · exact free

private theorem mapChildren (outermost : document.DocumentsOutermost)
    (id : NodeId) (change : List NodeId → List NodeId) :
    (document.mapChildren id change).DocumentsOutermost := by
  intro other isDocument
  rw [data?_mapChildren] at isDocument
  rw [parent?_mapChildren]
  exact outermost other isDocument

theorem linkLast (outermost : document.DocumentsOutermost)
    (notDocument : document.data? child ≠ some .document) (parent : NodeId) :
    (document.linkLast parent child).DocumentsOutermost := by
  refine (outermost.mapChildren parent (· ++ [child])).of_setParent ?_
    (some parent)
  rw [data?_mapChildren]
  exact notDocument

theorem detach (outermost : document.DocumentsOutermost) (id : NodeId) :
    (document.detach id).DocumentsOutermost := by
  intro other isDocument
  rw [data?_detach] at isDocument
  cases hangs : document.parent? id with
  | none =>
      rw [Document.detach, hangs]
      exact outermost other isDocument
  | some parent =>
      rw [WellFormed.parent?_detach hangs]
      split
      · rfl
      · exact outermost other isDocument

private theorem not_document_of_allowed
    (allowed : document.appendRefusal? parent child = none) :
    document.data? child ≠ some .document := by
  intro isDocument
  have kind : document.kind? child = some .document := by
    rw [kind?, isDocument]
    rfl
  rw [appendRefusal?, kind] at allowed
  split at allowed
  · contradiction
  · split at allowed
    · contradiction
    · simp at allowed

theorem appendChild (outermost : document.DocumentsOutermost)
    (parent child : NodeId) :
    (document.appendChild parent child).2.DocumentsOutermost := by
  unfold Document.appendChild
  split
  · exact outermost
  next allowed =>
    refine (outermost.detach child).linkLast ?_ parent
    rw [data?_detach]
    exact not_document_of_allowed allowed

theorem appendText (outermost : document.DocumentsOutermost)
    (parent : NodeId) (text : String) :
    (document.appendText parent text).2.DocumentsOutermost := by
  unfold Document.appendText
  split
  · exact outermost
  · split
    next last existing found =>
      intro id isDocument
      rw [parent?_setData]
      rw [data?_setData] at isDocument
      split at isDocument
      next =>
        cases payload : document.data? id with
        | none => rw [payload] at isDocument; contradiction
        | some data => rw [payload] at isDocument; cases isDocument
      next => exact outermost id isDocument
    next =>
      exact (outermost.create (.text text)).appendChild parent
        document.nodeCount

/-- Any node but a document node may take the place of another one. -/
theorem replaceChild (outermost : document.DocumentsOutermost) (old : NodeId)
    (notDocument : document.data? new ≠ some .document) :
    (document.replaceChild old new).2.DocumentsOutermost := by
  unfold Document.replaceChild
  cases hangs : document.parent? old with
  | none => exact outermost
  | some parent =>
      simp only
      split
      · exact outermost
      split
      · exact outermost
      · have orphaned := ((outermost.detach new).mapChildren parent
          (·.replace old new)).orphan old
        have still : (((document.detach new).mapChildren parent
            (·.replace old new)).setParent old none).data? new ≠
              some .document := by
          rw [data?_setParent, data?_mapChildren, data?_detach]
          exact notDocument
        exact orphaned.of_setParent still (some parent)

/-! ### Copies -/

private theorem copyChildren (outermost : document.DocumentsOutermost)
    (copyParent : NodeId) (ids : List NodeId)
    (notDocuments : ∀ child ∈ ids, source.data? child ≠ some .document)
    (pairs : List (NodeId × NodeId)) :
    (Document.copyChildren source copyParent ids document
      pairs).1.DocumentsOutermost := by
  induction ids generalizing document pairs with
  | nil => exact outermost
  | cons child rest induction =>
      obtain ⟨notDocument, others⟩ := List.forall_mem_cons.mp notDocuments
      rw [Document.copyChildren]
      cases payload : source.data? child with
      | none => exact induction outermost others pairs
      | some data =>
          refine induction ((outermost.create data).linkLast ?_ copyParent)
            others _
          rw [data?_create, if_pos (by rfl), ← payload]
          exact notDocument

private theorem copyPending (outermost : document.DocumentsOutermost)
    (sourceOutermost : source.DocumentsOutermost)
    (sourceWellFormed : source.WellFormed) (limit : Nat)
    (pending : List (NodeId × NodeId)) :
    (Document.copyPending source limit pending
      document).DocumentsOutermost := by
  induction limit generalizing document pending with
  | zero =>
      rw [Document.copyPending]
      exact outermost
  | succ limit induction =>
      cases pending with
      | nil =>
          rw [Document.copyPending]
          · exact outermost
          · simp
      | cons pair pending =>
          obtain ⟨node, copy⟩ := pair
          rw [Document.copyPending]
          refine induction (outermost.copyChildren copy (source.children node)
            ?_ []) _
          intro child member isDocument
          have hangs := (sourceWellFormed.mem_children node child).mp member
          rw [sourceOutermost child isDocument] at hangs
          contradiction

theorem importNode (outermost : document.DocumentsOutermost)
    (sourceOutermost : source.DocumentsOutermost)
    (sourceWellFormed : source.WellFormed) (id : NodeId) :
    (document.importNode source id).2.DocumentsOutermost := by
  unfold Document.importNode
  split
  · exact outermost
  · exact outermost
  next data _ _ =>
    exact (outermost.create data).copyPending sourceOutermost sourceWellFormed
      source.nodeCount _

end DocumentsOutermost

/-! ### Whole sequences of requests -/

/-- The documents that any sequence of requests can make, as long as no document
node is to take the place of another node. -/
inductive Assembled : Document → Prop where
  | empty : Assembled .empty
  | shell : Assembled .shell
  | create {document : Document} (data : NodeData) :
      Assembled document → Assembled (document.create data).2
  | appendChild {document : Document} (parent child : NodeId) :
      Assembled document → Assembled (document.appendChild parent child).2
  | appendText {document : Document} (parent : NodeId) (text : String) :
      Assembled document → Assembled (document.appendText parent text).2
  | detach {document : Document} (id : NodeId) :
      Assembled document → Assembled (document.detach id)
  | replaceChild {document : Document} {new : NodeId} (old : NodeId) :
      document.data? new ≠ some .document →
      Assembled document → Assembled (document.replaceChild old new).2
  | importNode {document source : Document} (id : NodeId) :
      Assembled document → Assembled source →
      Assembled (document.importNode source id).2

namespace Assembled

theorem wellFormed (assembled : Assembled document) :
    document.WellFormed := by
  induction assembled with
  | empty => exact wellFormed_empty
  | shell => exact wellFormed_shell
  | create data _ before => exact before.create data
  | appendChild parent child _ before => exact before.appendChild parent child
  | appendText parent text _ before => exact before.appendText parent text
  | detach id _ before => exact before.detach id
  | @replaceChild _ new old _ _ before => exact before.replaceChild old new
  | importNode id _ _ before source => exact before.importNode source id

theorem documentsOutermost (assembled : Assembled document) :
    document.DocumentsOutermost := by
  induction assembled with
  | empty =>
      intro id isDocument
      rw [(data?_empty isDocument).1]
      rfl
  | shell =>
      have each : ∀ id < Document.shell.nodeCount,
          Document.shell.data? id = some .document →
            Document.shell.parent? id = none := by
        decide
      exact fun id isDocument =>
        each id (lt_of_data?_eq_some isDocument) isDocument
  | create data _ before => exact before.create data
  | appendChild parent child _ before => exact before.appendChild parent child
  | appendText parent text _ before => exact before.appendText parent text
  | detach id _ before => exact before.detach id
  | replaceChild old notDocument _ before =>
      exact before.replaceChild old notDocument
  | importNode id _ assembled before source =>
      exact before.importNode source assembled.wellFormed id

/-- No document node occurs in any list of children. -/
theorem not_mem_children (assembled : Assembled document)
    (isDocument : document.data? id = some .document) (parent : NodeId) :
    id ∉ document.children parent := by
  rw [assembled.wellFormed.mem_children,
    assembled.documentsOutermost id isDocument]
  nofun

end Assembled

/-- Two elements, one inside the other, beside the document node. -/
def pairOfElements : Document :=
  let (outer, document) := empty.create (.element (.html "div"))
  let (inner, document) := document.create (.element (.html "b"))
  (document.appendChild outer inner).2

/-- The document node takes the place of an element inside an element, below
which it could not have been appended. -/
theorem replaceChild_pairOfElements :
    pairOfElements.appendRefusal? 1 0 = some .documentAsChild ∧
      (pairOfElements.replaceChild 2 0).1 = .ok () ∧
        (pairOfElements.replaceChild 2 0).2.parent? 0 = some 1 := by
  decide

end MarkupHarden.Dom.Document
