import MarkupHarden.Proofs.Dom.Tree

/-!
# Documents with the same content

Two documents can hold the same trees below a node although what stands around
that node differs, in its links and in the attributes of its elements.  Adding
the same node below that place in both, or changing the same text, keeps what
they share.
-/

namespace MarkupHarden.Dom

/-- An element without its attributes. -/
def Element.bare (element : Element) : Element :=
  { element with attributes := [] }

/-- A payload without attributes. -/
def NodeData.bare : NodeData → NodeData
  | .element named => .element named.bare
  | data => data

namespace NodeData

variable {data : NodeData}

theorem canHoldChildren_bare :
    data.bare.canHoldChildren = data.canHoldChildren := by
  cases data <;> rfl

theorem text_of_bare {text : String} (same : data.bare = .text text) :
    data = .text text := by
  cases data <;> first | exact same | contradiction

end NodeData

namespace Document

/-- The content of `context`: that node itself and all nodes from `first`
on. -/
def InContent (context first id : NodeId) : Prop :=
  id = context ∨ first ≤ id

/-- Two documents with the same trees below `context`, all of them made of nodes
from `first` on.  Older nodes are of the same kind and name in both. -/
structure SharesContent (context first : NodeId) (document other : Document) :
    Prop where
  nodeCount : other.nodeCount = document.nodeCount
  older : first ≤ document.nodeCount
  bare : ∀ id, (other.data? id).map NodeData.bare =
    (document.data? id).map NodeData.bare
  data? : ∀ id, first ≤ id → other.data? id = document.data? id
  children : ∀ id, InContent context first id →
    other.children id = document.children id
  newer : ∀ id, InContent context first id →
    ∀ child ∈ document.children id, first ≤ child

namespace SharesContent

variable {context first id parent : NodeId} {document other : Document}

/-- Documents with the same payloads share the content of a node that has no
children in either of them. -/
theorem of_leaf (count : document.nodeCount = first)
    (otherCount : other.nodeCount = first)
    (data : ∀ id, other.data? id = document.data? id)
    (leaf : document.children context = [])
    (otherLeaf : other.children context = []) :
    SharesContent context first document other := by
  have bare {id : NodeId} (content : InContent context first id) :
      document.children id = [] ∧ other.children id = [] := by
    rcases content with rfl | absent
    · exact ⟨leaf, otherLeaf⟩
    · exact ⟨WellFormed.children_of_absent (count ▸ absent),
        WellFormed.children_of_absent (otherCount ▸ absent)⟩
  refine ⟨otherCount.trans count.symm, count.ge, fun id => ?_,
    fun id _ => data id, ?_, ?_⟩
  · rw [data]
  · intro id content
    rw [(bare content).1, (bare content).2]
  · intro id content
    rw [(bare content).1]
    exact List.forall_mem_nil _

/-- What does not depend on attributes is the same about every node. -/
theorem congr_element? (shares : SharesContent context first document other)
    {α : Type} (reading : Option Element → α)
    (named : ∀ found, reading (found.map Element.bare) = reading found)
    (id : NodeId) :
    reading (other.element? id) = reading (document.element? id) := by
  have ofBare (document : Document) :
      (document.element? id).map Element.bare =
        ((document.data? id).map NodeData.bare).bind fun data =>
          match data with
          | .element element => some element
          | _ => none := by
    unfold element?
    cases document.data? id with
    | none => rfl
    | some data => cases data <;> rfl
  rw [← named, ofBare, shares.bare, ← ofBare, named]

theorem canHold (shares : SharesContent context first document other)
    (holds : (document.data? id).any NodeData.canHoldChildren = true) :
    (other.data? id).any NodeData.canHoldChildren = true := by
  have ofBare (document : Document) :
      (document.data? id).any NodeData.canHoldChildren =
        ((document.data? id).map NodeData.bare).any
          NodeData.canHoldChildren := by
    rw [Option.any_map]
    congr 1
    funext data
    exact NodeData.canHoldChildren_bare.symm
  rw [ofBare, shares.bare, ← ofBare]
  exact holds

private theorem data?_text (shares : SharesContent context first document other)
    {text : String} (isText : document.data? id = some (.text text)) :
    other.data? id = some (.text text) := by
  have same := shares.bare id
  rw [isText, Option.map_some, Option.map_eq_some_iff] at same
  obtain ⟨data, found, bare⟩ := same
  rw [found, NodeData.text_of_bare bare]

theorem symm (shares : SharesContent context first document other) :
    SharesContent context first other document where
  nodeCount := shares.nodeCount.symm
  older := shares.older.trans_eq shares.nodeCount.symm
  bare := fun id => (shares.bare id).symm
  data? := fun id new => (shares.data? id new).symm
  children := fun id within => (shares.children id within).symm
  newer := by
    intro id within
    rw [shares.children id within]
    exact shares.newer id within

/-- The children of a node end with the same text. -/
theorem lastText?_eq (shares : SharesContent context first document other)
    (within : InContent context first parent) :
    other.lastText? parent = document.lastText? parent := by
  have half {document other : Document}
      (shares : SharesContent context first document other)
      {last : NodeId} {text : String}
      (found : document.lastText? parent = some (last, text)) :
      other.lastText? parent = some (last, text) := by
    rw [lastText?_eq_some_iff] at found ⊢
    rw [lastChild?, shares.children parent within]
    exact ⟨found.1, shares.data?_text found.2⟩
  cases found : document.lastText? parent with
  | some pair => exact half shares found
  | none =>
      cases otherFound : other.lastText? parent with
      | none => rfl
      | some pair =>
          rw [half shares.symm otherFound] at found
          contradiction

/-- The same node is added to both documents. -/
theorem grown (shares : SharesContent context first document other)
    (inside : parent < document.nodeCount) (data : NodeData) :
    SharesContent context first (document.grown parent data)
      (other.grown parent data) := by
  have otherInside : parent < other.nodeCount := shares.nodeCount ▸ inside
  refine ⟨?_, ?_, ?_, ?_, ?_, ?_⟩
  · rw [nodeCount_grown, nodeCount_grown, shares.nodeCount]
  · rw [nodeCount_grown]
    exact Nat.le_succ_of_le shares.older
  · intro id
    rw [data?_grown inside, data?_grown otherInside, shares.nodeCount]
    split
    · rfl
    · exact shares.bare id
  · intro id new
    rw [data?_grown inside, data?_grown otherInside, shares.nodeCount,
      shares.data? id new]
  · intro id content
    rw [children_grown inside, children_grown otherInside, shares.nodeCount,
      shares.children id content]
  · intro id content child member
    rw [children_grown inside] at member
    split at member
    · rcases List.mem_append.mp member with old | added
      · exact shares.newer id content child old
      · rw [List.mem_singleton.mp added]
        exact shares.older
    · exact shares.newer id content child member

/-- A payload becomes the same in both documents. -/
theorem setData (shares : SharesContent context first document other)
    (id : NodeId) (data : NodeData) :
    SharesContent context first (document.setData id data)
      (other.setData id data) := by
  refine ⟨?_, ?_, ?_, ?_, ?_, ?_⟩
  · rw [nodeCount_setData, nodeCount_setData, shares.nodeCount]
  · rw [nodeCount_setData]
    exact shares.older
  · intro node
    rw [data?_setData, data?_setData]
    split
    · have known := congrArg (Option.map fun _ => data.bare) (shares.bare node)
      simpa only [Option.map_map, Function.comp_def] using known
    · exact shares.bare node
  · intro node new
    rw [data?_setData, data?_setData, shares.data? node new]
  · intro node content
    rw [children_setData, children_setData, shares.children node content]
  · intro node content
    rw [children_setData]
    exact shares.newer node content

/-- An older element gets other attributes in one of the documents. -/
theorem setData_left (shares : SharesContent context first document other)
    (old : id < first) {element changed : Element}
    (present : document.element? id = some element)
    (same : changed.bare = element.bare) :
    SharesContent context first
      (document.setData id (.element changed)) other := by
  have payload := element?_eq_some_iff.mp present
  refine ⟨?_, ?_, ?_, ?_, ?_, ?_⟩
  · rw [nodeCount_setData, shares.nodeCount]
  · rw [nodeCount_setData]
    exact shares.older
  · intro node
    rw [shares.bare, data?_setData]
    split
    next atNode =>
      rw [← atNode, payload]
      exact congrArg (fun bare => some (NodeData.element bare)) same.symm
    next => rfl
  · intro node new
    have apart : id ≠ node := Nat.ne_of_lt (old.trans_le new)
    rw [data?_setData_of_ne apart, shares.data? node new]
  · intro node content
    rw [children_setData, shares.children node content]
  · intro node content
    rw [children_setData]
    exact shares.newer node content

/-- The trees below the node are the same. -/
theorem forest_eq (shares : SharesContent context first document other)
    (wellFormed : document.WellFormed) (otherWellFormed : other.WellFormed) :
    other.forest context = document.forest context := by
  have start : InContent context first context := Or.inl rfl
  rw [forest, forest, shares.children context start]
  apply List.map_congr_left
  intro child member
  have new := shares.newer context start child member
  refine wellFormed.tree_congr otherWellFormed child fun id below => ?_
  have newBelow : first ≤ id := by
    induction below using Relation.ReflTransGen.head_induction_on with
    | refl => exact new
    | @head id parent hangs _ above =>
        exact shares.newer parent (Or.inr above) id
          ((wellFormed.mem_children parent id).mpr hangs)
  exact ⟨shares.data? id newBelow, shares.children id (Or.inr newBelow)⟩

end SharesContent

end Document

end MarkupHarden.Dom
