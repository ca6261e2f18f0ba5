import MarkupHarden.Proofs.Dom.Walk

/-!
# Documents with the same links

Walks depend on the links of a document only.  A change of payloads that turns
elements into elements leaves every walk as it is and keeps the document
well-formed.
-/

namespace MarkupHarden.Dom

namespace Document

/-- Two documents with the same nodes in the same places. -/
structure SameLinks (document other : Document) : Prop where
  nodeCount : other.nodeCount = document.nodeCount
  children : other.children = document.children
  parent? : other.parent? = document.parent?

namespace SameLinks

variable {document other : Document}

theorem refl (document : Document) : SameLinks document document :=
  ⟨rfl, rfl, rfl⟩

theorem symm (same : SameLinks document other) : SameLinks other document :=
  ⟨same.nodeCount.symm, same.children.symm, same.parent?.symm⟩

theorem trans {last : Document} (first : SameLinks document other)
    (second : SameLinks other last) : SameLinks document last :=
  ⟨second.nodeCount.trans first.nodeCount,
    second.children.trans first.children,
    second.parent?.trans first.parent?⟩

theorem setData (document : Document) (id : NodeId) (data : NodeData) :
    SameLinks document (document.setData id data) :=
  ⟨nodeCount_setData, funext fun _ => children_setData _,
    funext fun _ => parent?_setData _⟩

theorem contains (same : SameLinks document other) :
    other.contains = document.contains := by
  funext id
  simp only [Document.contains, same.nodeCount]

theorem hangsUnder (same : SameLinks document other) :
    other.HangsUnder = document.HangsUnder := by
  funext child parent
  simp only [HangsUnder, same.parent?]

private theorem ancestorsUpTo (same : SameLinks document other) :
    ∀ limit id, other.ancestorsUpTo limit id =
      document.ancestorsUpTo limit id := by
  intro limit
  induction limit with
  | zero =>
      intro id
      rfl
  | succ limit induction =>
      intro id
      simp only [Document.ancestorsUpTo, same.parent?, induction]

theorem inclusiveAncestors (same : SameLinks document other) :
    other.inclusiveAncestors = document.inclusiveAncestors := by
  funext id
  simp only [Document.inclusiveAncestors, same.nodeCount, same.ancestorsUpTo]

theorem following? (same : SameLinks document other) :
    other.following? = document.following? := by
  have siblings : other.nextSibling? = document.nextSibling? := by
    funext id
    simp only [nextSibling?, same.parent?, same.children]
  funext id top
  simp only [Document.following?, firstChild?, same.children,
    same.inclusiveAncestors, siblings]

private theorem subtreeUpTo (same : SameLinks document other) :
    ∀ limit, other.subtreeUpTo limit = document.subtreeUpTo limit := by
  intro limit
  induction limit with
  | zero =>
      funext id
      rfl
  | succ limit induction =>
      funext id
      simp only [Document.subtreeUpTo, same.children, induction]

theorem subtree (same : SameLinks document other) :
    other.subtree = document.subtree := by
  funext id
  simp only [Document.subtree, same.contains, same.nodeCount,
    same.subtreeUpTo]

theorem subtrees (same : SameLinks document other) :
    other.subtrees = document.subtrees := by
  funext ids
  simp only [Document.subtrees, same.subtree]

theorem remaining (same : SameLinks document other) {top id : NodeId}
    {rest : List NodeId} (remaining : document.Remaining top id rest) :
    other.Remaining top id rest := by
  induction remaining with
  | top => exact .top
  | @child parent id before after rest _ split induction =>
      rw [← same.subtrees]
      exact .child induction (by rw [same.children]; exact split)

theorem leads (same : SameLinks document other) {top : NodeId}
    {candidate : Option NodeId} {pending : List NodeId}
    (leads : document.Leads top candidate pending) :
    other.Leads top candidate pending := by
  cases candidate with
  | none => exact leads
  | some id =>
      obtain ⟨rest, remaining, split⟩ := leads
      exact ⟨rest, same.remaining remaining, by rw [same.subtree]; exact split⟩

theorem cursorLeads (same : SameLinks document other) {cursor : Cursor}
    {pending : List NodeId} (leads : cursor.Leads document pending) :
    cursor.Leads other pending := by
  refine ⟨leads.1, ?_⟩
  rw [same.contains, same.following?]
  exact same.leads leads.2

theorem wellFormed (same : SameLinks document other)
    (kinds : ∀ id, (other.data? id).map NodeData.canHoldChildren =
      (document.data? id).map NodeData.canHoldChildren)
    (wellFormed : document.WellFormed) : other.WellFormed where
  mem_children := by
    rw [same.children, same.parent?]
    exact wellFormed.mem_children
  nodup := by
    rw [same.children]
    exact wellFormed.nodup
  acyclic := by
    rw [same.hangsUnder]
    exact wellFormed.acyclic
  childless := by
    intro id data found leaf
    have before := kinds id
    rw [found, Option.map_some, leaf, eq_comm, Option.map_eq_some_iff]
      at before
    obtain ⟨old, oldFound, oldLeaf⟩ := before
    rw [same.children]
    exact wellFormed.childless id old oldFound oldLeaf

end SameLinks

end Document

/-! ### Changing elements -/

/-- Changes the element in a payload, if it is one. -/
def NodeData.mapElement (change : Element → Element) : NodeData → NodeData
  | .element old => .element (change old)
  | data => data

/-- Changes the element at a node, if it is one, and leaves its links. -/
def Node.mapElement (change : Element → Element) (node : Node) : Node :=
  { node with data := node.data.mapElement change }

namespace Document

variable {document : Document}

theorem node?_setData_element {id : NodeId} {element changed : Element}
    (found : document.element? id = some element) (other : NodeId) :
    (document.setData id (.element changed)).node? other =
      if id = other then
        (document.node? other).map (Node.mapElement fun _ => changed)
      else document.node? other := by
  rw [node?_setData]
  by_cases same : id = other
  · subst other
    obtain ⟨node, present, data⟩ :=
      Option.map_eq_some_iff.mp (element?_eq_some_iff.mp found)
    simp [present, Node.mapElement, NodeData.mapElement, data]
  · rw [if_neg same, if_neg same]

theorem kind?_setData_element {id : NodeId} {element changed : Element}
    (found : document.element? id = some element) :
    (document.setData id (.element changed)).kind? = document.kind? := by
  funext other
  unfold kind?
  rw [data?_setData]
  by_cases same : id = other
  · subst other
    rw [element?_eq_some_iff.mp found]
    simp [NodeData.kind]
  · rw [if_neg same]

theorem element?_setData_of_ne {id other : NodeId} {data : NodeData}
    (different : id ≠ other) :
    (document.setData id data).element? other = document.element? other := by
  unfold element?
  rw [data?_setData_of_ne different]

theorem element?_setData_text {id : NodeId} {old : String}
    (found : document.data? id = some (.text old)) (text : String) :
    (document.setData id (.text text)).element? = document.element? := by
  funext other
  by_cases same : id = other
  · unfold element?
    rw [data?_setData, if_pos same, ← same, found]
    rfl
  · exact element?_setData_of_ne same

theorem element?_setData_element {id : NodeId} {element changed : Element}
    (found : document.element? id = some element) (other : NodeId) :
    (document.setData id (.element changed)).element? other =
      if id = other then some changed else document.element? other := by
  split
  next same =>
    rw [← same, element?_eq_some_iff, data?_setData, if_pos rfl,
      element?_eq_some_iff.mp found]
    rfl
  next different => exact element?_setData_of_ne different

theorem WellFormed.setData_element (wellFormed : document.WellFormed)
    {id : NodeId} {element : Element} (changed : Element)
    (found : document.element? id = some element) :
    (document.setData id (.element changed)).WellFormed := by
  refine (SameLinks.setData document id _).wellFormed ?_ wellFormed
  intro other
  rw [data?_setData]
  by_cases same : id = other
  · subst other
    rw [element?_eq_some_iff.mp found]
    simp [NodeData.canHoldChildren]
  · rw [if_neg same]

end Document

end MarkupHarden.Dom
