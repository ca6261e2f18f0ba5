import MarkupHarden.Dom.Mutation

/-!
# Reading an updated document

What the questions about a document answer after one of its nodes has been
changed, created or linked.  Every later fact about a change to the tree goes
through these equations.
-/

namespace MarkupHarden.Dom.Document

variable {document : Document} {id parent child : NodeId} {data : NodeData}

@[simp]
theorem nodeCount_modifyNode (change : Node → Node) :
    (document.modifyNode id change).nodeCount = document.nodeCount := by
  simp [modifyNode, nodeCount]

theorem node?_modifyNode (change : Node → Node) (other : NodeId) :
    (document.modifyNode id change).node? other =
      if id = other then (document.node? other).map change
      else document.node? other := by
  simp only [node?, modifyNode]
  rw [Array.getElem?_modify]

theorem node?_eq_none_iff : document.node? id = none ↔ document.nodeCount ≤ id := by
  simp [node?, nodeCount]

theorem contains_iff : document.contains id = true ↔ id < document.nodeCount := by
  simp [contains]

theorem lt_of_node?_eq_some {node : Node} (found : document.node? id = some node) :
    id < document.nodeCount := by
  refine Nat.lt_of_not_le fun beyond => ?_
  rw [node?_eq_none_iff.mpr beyond] at found
  contradiction

theorem lt_of_data?_eq_some (found : document.data? id = some data) :
    id < document.nodeCount := by
  obtain ⟨node, present, _⟩ := Option.map_eq_some_iff.mp found
  exact lt_of_node?_eq_some present

theorem exists_data_of_lt (inside : id < document.nodeCount) :
    ∃ data, document.data? id = some data := by
  cases present : document.node? id with
  | none => exact absurd inside (Nat.not_lt.mpr (node?_eq_none_iff.mp present))
  | some node => exact ⟨node.data, by rw [data?, present]; rfl⟩

theorem lt_of_parent?_eq_some (hangs : document.parent? child = some parent) :
    child < document.nodeCount := by
  obtain ⟨node, present, _⟩ := Option.bind_eq_some_iff.mp hangs
  exact lt_of_node?_eq_some present

theorem lt_of_mem_children (member : child ∈ document.children parent) :
    parent < document.nodeCount := by
  cases present : document.node? parent with
  | none => simp [children, present] at member
  | some node => exact lt_of_node?_eq_some present

/-- Elements are the nodes whose payload is one. -/
theorem element?_eq_some_iff {element : Element} :
    document.element? id = some element ↔
      document.data? id = some (.element element) := by
  unfold element?
  split <;> simp_all

/-! ### Elements by name -/

theorem exists_data_of_isHtmlElement {name : String}
    (named : document.isHtmlElement id name = true) :
    ∃ element, document.data? id = some (.element element) ∧
      element.isHtml name = true := by
  obtain ⟨element, present, isNamed⟩ := (Option.any_eq_true _ _).mp named
  exact ⟨element, element?_eq_some_iff.mp present, isNamed⟩

theorem kind?_of_isHtmlElement {name : String}
    (named : document.isHtmlElement id name = true) :
    document.kind? id = some .element := by
  obtain ⟨element, present, _⟩ := exists_data_of_isHtmlElement named
  rw [kind?, present]
  rfl

theorem documentElement?_eq {name : String} {rest : List NodeId}
    (children : document.children root = id :: rest)
    (named : document.isHtmlElement id name = true) :
    document.documentElement? = some id := by
  rw [documentElement?, children]
  simp [kind?_of_isHtmlElement named]

/-- The body is the first child of the document element with that name. -/
theorem body?_eq {html : NodeId} {before after : List NodeId}
    (top : document.documentElement? = some html)
    (children : document.children html = before ++ id :: after)
    (others : ∀ other ∈ before, document.isHtmlElement other "body" = false)
    (isBody : document.isHtmlElement id "body" = true) :
    document.body? = some id := by
  have skipped : before.find? (document.isHtmlElement · "body") = none := by
    rw [List.find?_eq_none]
    intro other member
    rw [others other member]
    exact Bool.false_ne_true
  rw [body?, section?, top, Option.bind_some, children, List.find?_append,
    skipped, Option.none_or, List.find?_cons, isBody]

/-! ### Payloads -/

@[simp]
theorem nodeCount_setData : (document.setData id data).nodeCount = document.nodeCount :=
  nodeCount_modifyNode _

theorem node?_setData (other : NodeId) :
    (document.setData id data).node? other =
      if id = other then
        (document.node? other).map fun node => { node with data := data }
      else document.node? other :=
  node?_modifyNode _ other

@[simp]
theorem children_setData (other : NodeId) :
    (document.setData id data).children other = document.children other := by
  unfold children
  rw [node?_setData]
  split
  · cases document.node? other <;> rfl
  · rfl

@[simp]
theorem parent?_setData (other : NodeId) :
    (document.setData id data).parent? other = document.parent? other := by
  unfold parent?
  rw [node?_setData]
  split
  · cases document.node? other <;> rfl
  · rfl

theorem data?_setData (other : NodeId) :
    (document.setData id data).data? other =
      if id = other then (document.data? other).map fun _ => data
      else document.data? other := by
  unfold data?
  rw [node?_setData]
  split
  · cases document.node? other <;> rfl
  · rfl

theorem data?_setData_of_ne {other : NodeId} (different : id ≠ other) :
    (document.setData id data).data? other = document.data? other := by
  rw [data?_setData, if_neg different]

/-- A document is what its table holds. -/
theorem eq_of_node?_eq {other : Document}
    (same : ∀ id, other.node? id = document.node? id) : other = document := by
  obtain ⟨nodes⟩ := document
  obtain ⟨others⟩ := other
  rw [Document.mk.injEq]
  exact Array.ext_getElem? fun {id} => same id

/-- A payload may be replaced by itself. -/
theorem setData_self (present : document.data? id = some data) :
    document.setData id data = document := by
  apply eq_of_node?_eq
  intro other
  rw [node?_setData]
  split
  next same =>
    subst same
    obtain ⟨node, found, rfl⟩ := Option.map_eq_some_iff.mp present
    rw [found]
    rfl
  next => rfl

/-! ### A new node -/

theorem nodeCount_create : (document.create data).2.nodeCount = document.nodeCount + 1 := by
  simp [create, nodeCount]

theorem node?_create (other : NodeId) :
    (document.create data).2.node? other =
      if other = document.nodeCount then some { data := data }
      else document.node? other := by
  simp only [create, node?, nodeCount]
  rw [Array.getElem?_push]
  rfl

/-! ### A new link -/

@[simp]
theorem nodeCount_linkLast :
    (document.linkLast parent child).nodeCount = document.nodeCount := by
  simp [linkLast]

theorem node?_linkLast (different : parent ≠ child) (other : NodeId) :
    (document.linkLast parent child).node? other =
      if other = parent then
        (document.node? other).map fun node =>
          { node with children := node.children ++ [child] }
      else if other = child then
        (document.node? other).map fun node => { node with parent := some parent }
      else document.node? other := by
  unfold linkLast
  rw [node?_modifyNode, node?_modifyNode]
  by_cases atParent : parent = other
  · subst other
    simp [different.symm]
  · by_cases atChild : child = other
    · subst other
      simp [different, different.symm]
    · simp [atParent, atChild, eq_comm]

end MarkupHarden.Dom.Document
