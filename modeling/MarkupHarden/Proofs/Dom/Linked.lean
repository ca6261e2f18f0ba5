import MarkupHarden.Proofs.Dom.LinkTable
import MarkupHarden.Proofs.Dom.Siblings

/-!
# Links that agree

`Linked` says of the five links of every node in a table, parent, first and last
child, previous and next sibling, that they agree with each other: the children
of a node can be read in either direction, each of them names that node as its
parent, and nothing else is linked to it.  The tables with this property are the
well-formed documents, written down as tables of links.
-/

namespace MarkupHarden.Dom

namespace LinkTable

/-- `child` is linked to `parent`. -/
def HangsUnder (table : LinkTable) (child parent : NodeId) : Prop :=
  table.parent? child = some parent

/-- The nodes that hang under `parent`, as its links to the first and the last
of them and the links between them say. -/
structure ChildrenOf (table : LinkTable) (parent : NodeId)
    (children : List NodeId) : Prop where
  forward :
    Document.Chain table.nextSibling? (table.firstChild? parent) children
  backward : Document.Chain table.previousSibling? (table.lastChild? parent)
    children.reverse
  last : children.getLast? = table.lastChild? parent
  nodup : children.Nodup
  mem_iff : ∀ child, child ∈ children ↔ table.parent? child = some parent

/-- A node to which `id` has a link. -/
def LinksTo (table : LinkTable) (id other : NodeId) : Prop :=
  table.parent? id = some other ∨ table.firstChild? id = some other ∨
    table.lastChild? id = some other ∨
      table.previousSibling? id = some other ∨
        table.nextSibling? id = some other

/-- The links of all nodes agree, and no node lies above itself. -/
structure Linked (table : LinkTable) : Prop where
  inside : ∀ id other, table.LinksTo id other →
    id < table.nodeCount ∧ other < table.nodeCount
  children : ∀ parent, ∃ children, table.ChildrenOf parent children
  mirrored : ∀ left right, table.nextSibling? left = some right ↔
    table.previousSibling? right = some left
  alone : ∀ id, table.parent? id = none →
    table.previousSibling? id = none ∧ table.nextSibling? id = none
  acyclic : ∀ id, ¬Relation.TransGen table.HangsUnder id id
  holders : ∀ id, table.firstChild? id ≠ none ∨ table.lastChild? id ≠ none →
    table.kind? id = some .document ∨ table.kind? id = some .element

/-- A table is what its nodes are. -/
theorem eq_of_node?_eq {table other : LinkTable}
    (same : ∀ id, other.node? id = table.node? id) : other = table := by
  obtain ⟨nodes⟩ := table
  obtain ⟨others⟩ := other
  rw [LinkTable.mk.injEq]
  exact Array.ext_getElem? fun {id} => same id

end LinkTable

/-! ### The links of a document -/

namespace Document

variable {document other : Document} {id : NodeId}

/-- A payload with the links of the node `id`. -/
def linksAt (document : Document) (id : NodeId) (data : NodeData) :
    LinkedNode where
  data := data
  parent := document.parent? id
  firstChild := document.firstChild? id
  lastChild := document.lastChild? id
  previousSibling := document.previousSibling? id
  nextSibling := document.nextSibling? id

/-- A document as a table of links. -/
def links (document : Document) : LinkTable where
  nodes := document.nodes.mapIdx fun id node => document.linksAt id node.data

@[simp]
theorem nodeCount_links : document.links.nodeCount = document.nodeCount :=
  Array.size_mapIdx

theorem node?_links (id : NodeId) :
    document.links.node? id = (document.data? id).map (document.linksAt id) := by
  rw [data?, Option.map_map]
  exact Array.getElem?_mapIdx

theorem linksAt_of_absent (absent : document.nodeCount ≤ id)
    (data : NodeData) : document.linksAt id data = { data } := by
  have missing := node?_eq_none_iff.mpr absent
  simp [linksAt, parent?, firstChild?, lastChild?, previousSibling?,
    nextSibling?, children, missing]

/-- The links follow from the parents and the lists of children. -/
theorem linksAt_congr (children : ∀ id, other.children id = document.children id)
    (parent? : ∀ id, other.parent? id = document.parent? id) :
    other.linksAt = document.linksAt := by
  funext id data
  simp only [linksAt, firstChild?, lastChild?, previousSibling?, nextSibling?,
    children, parent?]

/-- A link of the table is that of the document. -/
private theorem bind_node?_links {link : LinkedNode → Option NodeId}
    {read : NodeId → Option NodeId}
    (same : ∀ id data, link (document.linksAt id data) = read id)
    (free : ∀ data, link { data } = none) (id : NodeId) :
    (document.links.node? id).bind link = read id := by
  rw [node?_links]
  cases present : document.data? id with
  | some data => exact same id data
  | none =>
      have absent := Nat.le_of_not_lt fun inside =>
        Option.ne_none_iff_exists'.mpr (exists_data_of_lt inside) present
      rw [← same id .document, linksAt_of_absent absent, free]
      rfl

@[simp]
theorem data?_links : document.links.data? = document.data? := by
  funext id
  rw [LinkTable.data?, node?_links, Option.map_map]
  exact Option.map_id_apply

@[simp]
theorem kind?_links : document.links.kind? = document.kind? := by
  funext id
  rw [LinkTable.kind?, data?_links, kind?]

@[simp]
theorem parent?_links : document.links.parent? = document.parent? :=
  funext (bind_node?_links (fun _ _ => rfl) fun _ => rfl)

@[simp]
theorem firstChild?_links :
    document.links.firstChild? = document.firstChild? :=
  funext (bind_node?_links (fun _ _ => rfl) fun _ => rfl)

@[simp]
theorem lastChild?_links : document.links.lastChild? = document.lastChild? :=
  funext (bind_node?_links (fun _ _ => rfl) fun _ => rfl)

@[simp]
theorem previousSibling?_links :
    document.links.previousSibling? = document.previousSibling? :=
  funext (bind_node?_links (fun _ _ => rfl) fun _ => rfl)

@[simp]
theorem nextSibling?_links :
    document.links.nextSibling? = document.nextSibling? :=
  funext (bind_node?_links (fun _ _ => rfl) fun _ => rfl)

end Document

/-! ### The links of well-formed documents -/

namespace Document.WellFormed

variable {document : Document} {id : NodeId}

theorem childrenOf (wellFormed : document.WellFormed) (parent : NodeId) :
    document.links.ChildrenOf parent (document.children parent) where
  forward := by
    rw [nextSibling?_links, firstChild?_links]
    exact wellFormed.chain_nextSibling? parent
  backward := by
    rw [previousSibling?_links, lastChild?_links]
    exact wellFormed.chain_previousSibling? parent
  last := by
    rw [lastChild?_links]
    rfl
  nodup := wellFormed.nodup parent
  mem_iff := by
    rw [parent?_links]
    exact wellFormed.mem_children parent

private theorem inside_of_linksTo (wellFormed : document.WellFormed)
    {other : NodeId} (links : document.links.LinksTo id other) :
    id < document.nodeCount ∧ other < document.nodeCount := by
  have below : ∀ {parent child}, child ∈ document.children parent →
      parent < document.nodeCount ∧ child < document.nodeCount :=
    fun member => ⟨lt_of_mem_children member, wellFormed.child_lt member⟩
  unfold LinkTable.LinksTo at links
  rw [parent?_links, firstChild?_links, lastChild?_links,
    previousSibling?_links, nextSibling?_links] at links
  rcases links with hangs | first | last | previous | next
  · have member := (wellFormed.mem_children other id).mpr hangs
    exact ⟨(below member).2, (below member).1⟩
  · exact below (List.mem_of_head? first)
  · exact below (List.mem_of_getLast? last)
  · obtain ⟨parent, before, after, split⟩ :=
      wellFormed.previousSibling?_eq_some_iff.mp previous
    have left : other ∈ document.children parent := by simp [split]
    have right : id ∈ document.children parent := by simp [split]
    exact ⟨(below right).2, (below left).2⟩
  · obtain ⟨parent, before, after, split⟩ :=
      wellFormed.nextSibling?_eq_some_iff.mp next
    have left : id ∈ document.children parent := by simp [split]
    have right : other ∈ document.children parent := by simp [split]
    exact ⟨(below left).2, (below right).2⟩

theorem linked (wellFormed : document.WellFormed) : document.links.Linked where
  inside := by
    intro id other links
    rw [nodeCount_links]
    exact wellFormed.inside_of_linksTo links
  children := fun parent => ⟨_, wellFormed.childrenOf parent⟩
  mirrored := by
    intro left right
    rw [nextSibling?_links, previousSibling?_links,
      wellFormed.nextSibling?_eq_some_iff,
      wellFormed.previousSibling?_eq_some_iff]
  alone := by
    intro id parentless
    rw [parent?_links] at parentless
    rw [previousSibling?_links, nextSibling?_links]
    exact siblings_of_parentless parentless
  acyclic := by
    intro id chain
    unfold LinkTable.HangsUnder at chain
    rw [parent?_links] at chain
    exact wellFormed.acyclic id chain
  holders := by
    intro id parental
    rw [kind?_links]
    apply wellFormed.kind_of_children
    intro none
    rw [firstChild?_links, lastChild?_links, firstChild?, lastChild?, none]
      at parental
    rcases parental with first | last
    · exact first rfl
    · exact last rfl

end Document.WellFormed

/-! ### Reading a document off its links -/

namespace LinkTable

variable {table : LinkTable} {id parent : NodeId}

/-- The nodes of a table with the lists of children that the links show. -/
def document (table : LinkTable) : Document where
  nodes := table.nodes.mapIdx fun id node =>
    { data := node.data, parent := node.parent, children := table.children id }

theorem siblingsFrom_eq {start : Option NodeId} {ids : List NodeId}
    (chain : Document.Chain table.nextSibling? start ids) {limit : Nat}
    (enough : ids.length ≤ limit) : table.siblingsFrom limit start = ids := by
  induction chain generalizing limit with
  | done => cases limit <;> rfl
  | @step id rest _ induction =>
      obtain ⟨limit, rfl⟩ : ∃ less, limit = less + 1 :=
        Nat.exists_eq_add_one.mpr (Nat.lt_of_lt_of_le (Nat.succ_pos _) enough)
      rw [siblingsFrom, induction (Nat.le_of_succ_le_succ enough)]

theorem Linked.childrenOf (linked : table.Linked) (parent : NodeId) :
    table.ChildrenOf parent (table.children parent) := by
  obtain ⟨ids, childrenOf⟩ := linked.children parent
  have bounded : ids.length ≤ table.nodeCount := by
    apply Document.length_le_of_nodup childrenOf.nodup
    intro child member
    have hangs := (childrenOf.mem_iff child).mp member
    exact (linked.inside child parent (.inl hangs)).1
  have read : table.children parent = ids :=
    siblingsFrom_eq childrenOf.forward bounded
  rw [read]
  exact childrenOf

@[simp]
theorem nodeCount_document : table.document.nodeCount = table.nodeCount :=
  Array.size_mapIdx

theorem node?_document (id : NodeId) :
    table.document.node? id = (table.node? id).map fun node =>
      { data := node.data, parent := node.parent,
        children := table.children id } :=
  Array.getElem?_mapIdx

theorem data?_document : table.document.data? = table.data? := by
  funext id
  rw [Document.data?, node?_document, data?]
  cases table.node? id <;> rfl

theorem parent?_document : table.document.parent? = table.parent? := by
  funext id
  rw [Document.parent?, node?_document, parent?]
  cases table.node? id <;> rfl

theorem children_document : table.document.children = table.children := by
  funext id
  rw [Document.children, node?_document]
  cases present : table.node? id with
  | some node => rfl
  | none =>
      rw [children, firstChild?, present]
      cases table.nodeCount <;> rfl

namespace Linked

theorem wellFormed_document (linked : table.Linked) :
    table.document.WellFormed where
  mem_children := by
    rw [children_document, parent?_document]
    exact fun parent => (linked.childrenOf parent).mem_iff
  nodup := by
    rw [children_document]
    exact fun parent => (linked.childrenOf parent).nodup
  acyclic := by
    intro id chain
    unfold Document.HangsUnder at chain
    rw [parent?_document] at chain
    exact linked.acyclic id chain
  childless := by
    intro id data present leaf
    rw [data?_document] at present
    rw [children_document]
    by_contra parental
    have first : table.firstChild? id ≠ none := by
      intro nothing
      have head := (linked.childrenOf id).forward.head?_eq
      rw [nothing, List.head?_eq_none_iff] at head
      exact parental head
    have kind := linked.holders id (.inl first)
    rw [kind?, present, Option.map_some, Option.some_inj, Option.some_inj,
      ← data.canHoldChildren_iff, leaf] at kind
    contradiction

theorem firstChild?_document (linked : table.Linked) :
    table.document.firstChild? = table.firstChild? := by
  funext id
  rw [Document.firstChild?, children_document]
  exact (linked.childrenOf id).forward.head?_eq

theorem lastChild?_document (linked : table.Linked) :
    table.document.lastChild? = table.lastChild? := by
  funext id
  rw [Document.lastChild?, children_document]
  exact (linked.childrenOf id).last

theorem nextSibling?_document (linked : table.Linked) :
    table.document.nextSibling? = table.nextSibling? := by
  funext id
  cases hangs : table.parent? id with
  | none =>
      rw [Document.nextSibling?, parent?_document, hangs,
        (linked.alone id hangs).2]
      rfl
  | some parent =>
      have above : table.document.parent? id = some parent := by
        rw [parent?_document, hangs]
      obtain ⟨before, after, split⟩ :=
        linked.wellFormed_document.exists_split above
      rw [linked.wellFormed_document.nextSibling?_eq split]
      have forward := (linked.childrenOf parent).forward
      rw [← children_document, split] at forward
      exact forward.next_eq.symm

theorem previousSibling?_document (linked : table.Linked) :
    table.document.previousSibling? = table.previousSibling? := by
  funext id
  cases hangs : table.parent? id with
  | none =>
      rw [Document.previousSibling?, parent?_document, hangs,
        (linked.alone id hangs).1]
      rfl
  | some parent =>
      have above : table.document.parent? id = some parent := by
        rw [parent?_document, hangs]
      obtain ⟨before, after, split⟩ :=
        linked.wellFormed_document.exists_split above
      rw [linked.wellFormed_document.previousSibling?_eq split]
      have backward := (linked.childrenOf parent).backward
      rw [← children_document, split, List.reverse_append, List.reverse_cons,
        List.append_assoc] at backward
      rw [← List.head?_reverse]
      exact backward.next_eq.symm

/-- The links of the document read off a table are those of the table. -/
theorem links_document (linked : table.Linked) :
    table.document.links = table := by
  apply eq_of_node?_eq
  intro id
  rw [Document.node?_links, data?_document]
  cases present : table.node? id with
  | none =>
      rw [data?, present]
      rfl
  | some node =>
      have reads : table.document.linksAt id node.data = node := by
        unfold Document.linksAt
        rw [parent?_document, linked.firstChild?_document,
          linked.lastChild?_document, linked.previousSibling?_document,
          linked.nextSibling?_document, parent?, firstChild?, lastChild?,
          previousSibling?, nextSibling?, present]
        rfl
      rw [data?, present]
      exact congrArg some reads

end Linked

/-- The tables whose links agree are the well-formed documents. -/
theorem linked_iff :
    table.Linked ↔
      ∃ document : Document, document.WellFormed ∧ document.links = table := by
  constructor
  · intro linked
    exact ⟨table.document, linked.wellFormed_document, linked.links_document⟩
  · rintro ⟨document, wellFormed, rfl⟩
    exact wellFormed.linked

end LinkTable

end MarkupHarden.Dom
