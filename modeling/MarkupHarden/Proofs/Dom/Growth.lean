import MarkupHarden.Proofs.Dom.Links

/-!
# Growing documents

Trees are built by adding nodes one at a time, each as the last child of an
older one.  `appendNew_eq` says that this is never refused where children are
allowed, and `WellFormed.grown` that the document stays well-formed.
-/

namespace MarkupHarden.Dom.Document

variable {document : Document} {id parent : NodeId} {data : NodeData}

/-! ### A detached node -/

theorem data?_create (other : NodeId) :
    (document.create data).2.data? other =
      if other = document.nodeCount then some data
      else document.data? other := by
  unfold data?
  rw [node?_create]
  split <;> rfl

theorem parent?_create (other : NodeId) :
    (document.create data).2.parent? other = document.parent? other := by
  unfold parent?
  rw [node?_create]
  split
  next fresh =>
    rw [node?_eq_none_iff.mpr (Nat.le_of_eq fresh.symm)]
    rfl
  next => rfl

theorem children_create (other : NodeId) :
    (document.create data).2.children other = document.children other := by
  unfold children
  rw [node?_create]
  split
  next fresh =>
    rw [node?_eq_none_iff.mpr (Nat.le_of_eq fresh.symm)]
    rfl
  next => rfl

theorem parent?_of_absent (absent : document.nodeCount ≤ id) :
    document.parent? id = none := by
  simp [parent?, node?_eq_none_iff.mpr absent]

theorem WellFormed.create (wellFormed : document.WellFormed)
    (data : NodeData) : (document.create data).2.WellFormed where
  mem_children := by
    intro parent child
    rw [children_create, parent?_create]
    exact wellFormed.mem_children parent child
  nodup := by
    intro id
    rw [children_create]
    exact wellFormed.nodup id
  acyclic := by
    have same : (document.create data).2.HangsUnder = document.HangsUnder := by
      funext child parent
      simp only [HangsUnder, parent?_create]
    rw [same]
    exact wellFormed.acyclic
  childless := by
    intro id other found leaf
    rw [children_create]
    rw [data?_create] at found
    split at found
    next fresh => exact WellFormed.children_of_absent (Nat.le_of_eq fresh.symm)
    next => exact wellFormed.childless id other found leaf

/-! ### Payloads -/

theorem data?_modifyNode {change : Node → Node}
    (keeps : ∀ node, (change node).data = node.data) (other : NodeId) :
    (document.modifyNode id change).data? other = document.data? other := by
  unfold data?
  rw [node?_modifyNode]
  split
  · cases document.node? other with
    | none => rfl
    | some node => exact congrArg some (keeps node)
  · rfl

theorem data?_detach (other : NodeId) :
    (document.detach id).data? other = document.data? other := by
  unfold detach
  split
  · rfl
  · rw [data?_modifyNode, data?_modifyNode]
    · intro node
      rfl
    · intro node
      rfl

/-! ### A new last child -/

/-- The document with a new node as the last child of `parent`. -/
def grown (document : Document) (parent : NodeId) (data : NodeData) :
    Document :=
  (document.create data).2.linkLast parent document.nodeCount

@[simp]
theorem nodeCount_grown :
    (document.grown parent data).nodeCount = document.nodeCount + 1 := by
  rw [grown, nodeCount_linkLast, nodeCount_create]

theorem node?_grown (inside : parent < document.nodeCount) (other : NodeId) :
    (document.grown parent data).node? other =
      if other = document.nodeCount then
        some { data := data, parent := some parent }
      else if other = parent then
        (document.node? other).map fun node =>
          { node with children := node.children ++ [document.nodeCount] }
      else document.node? other := by
  rw [grown, node?_linkLast (Nat.ne_of_lt inside), node?_create]
  by_cases fresh : other = document.nodeCount
  · have different : other ≠ parent := fresh ▸ (Nat.ne_of_lt inside).symm
    simp only [if_neg different, if_pos fresh, Option.map_some]
  · simp only [if_neg fresh]

theorem data?_grown (inside : parent < document.nodeCount) (other : NodeId) :
    (document.grown parent data).data? other =
      if other = document.nodeCount then some data
      else document.data? other := by
  unfold data?
  rw [node?_grown inside]
  split
  · rfl
  · split
    · cases document.node? other <;> rfl
    · rfl

/-- The payload of a new node may be replaced at once. -/
theorem setData_grown (inside : parent < document.nodeCount)
    (later : NodeData) :
    (document.grown parent data).setData document.nodeCount later =
      document.grown parent later := by
  apply eq_of_node?_eq
  intro other
  rw [node?_setData, node?_grown inside, node?_grown inside]
  by_cases fresh : other = document.nodeCount
  · rw [if_pos fresh.symm, if_pos fresh, if_pos fresh]
    rfl
  · rw [if_neg (Ne.symm fresh), if_neg fresh, if_neg fresh]

theorem data?_grown_of_lt (inside : parent < document.nodeCount)
    {other : NodeId} (old : other < document.nodeCount) :
    (document.grown parent data).data? other = document.data? other := by
  rw [data?_grown inside, if_neg (Nat.ne_of_lt old)]

theorem element?_grown_of_lt (inside : parent < document.nodeCount)
    {other : NodeId} (old : other < document.nodeCount) :
    (document.grown parent data).element? other = document.element? other := by
  unfold element?
  rw [data?_grown_of_lt inside old]

theorem parent?_grown (inside : parent < document.nodeCount) (other : NodeId) :
    (document.grown parent data).parent? other =
      if other = document.nodeCount then some parent
      else document.parent? other := by
  unfold parent?
  rw [node?_grown inside]
  split
  · rfl
  · split
    · cases document.node? other <;> rfl
    · rfl

theorem children_grown (inside : parent < document.nodeCount)
    (other : NodeId) :
    (document.grown parent data).children other =
      if other = parent then
        document.children other ++ [document.nodeCount]
      else document.children other := by
  unfold children
  rw [node?_grown inside]
  by_cases fresh : other = document.nodeCount
  · have different : other ≠ parent := fresh ▸ (Nat.ne_of_lt inside).symm
    rw [if_pos fresh, if_neg different,
      node?_eq_none_iff.mpr (Nat.le_of_eq fresh.symm)]
    rfl
  · rw [if_neg fresh]
    split
    next atParent =>
      cases present : document.node? other with
      | none =>
          have absent := node?_eq_none_iff.mp present
          exact absurd inside (Nat.not_lt.mpr (atParent ▸ absent))
      | some node => rfl
    next => rfl

private theorem transGen_of_grown (wellFormed : document.WellFormed)
    (inside : parent < document.nodeCount) {below above : NodeId}
    (chain : Relation.TransGen (document.grown parent data).HangsUnder below
      above) :
    above < document.nodeCount ∧
      (below < document.nodeCount →
        Relation.TransGen document.HangsUnder below above) := by
  have single : ∀ child other,
      (document.grown parent data).HangsUnder child other →
        other < document.nodeCount ∧
          (child < document.nodeCount → document.HangsUnder child other) := by
    intro child other hangs
    rw [HangsUnder, parent?_grown inside] at hangs
    split at hangs
    next fresh =>
      cases hangs
      exact ⟨inside, fun old => absurd fresh (Nat.ne_of_lt old)⟩
    next => exact ⟨wellFormed.parent_lt hangs, fun _ => hangs⟩
  induction chain with
  | single hangs =>
      have step := single _ _ hangs
      exact ⟨step.1, fun old => .single (step.2 old)⟩
  | tail _ hangs induction =>
      have step := single _ _ hangs
      exact ⟨step.1, fun old => .tail (induction.2 old) (step.2 induction.1)⟩

theorem WellFormed.grown (wellFormed : document.WellFormed)
    (holds : (document.data? parent).any NodeData.canHoldChildren = true)
    (data : NodeData) : (document.grown parent data).WellFormed := by
  obtain ⟨parentData, present, canHold⟩ := (Option.any_eq_true _ _).mp holds
  have inside : parent < document.nodeCount := lt_of_data?_eq_some present
  constructor
  · intro above child
    rw [children_grown inside, parent?_grown inside]
    by_cases fresh : child = document.nodeCount
    · rw [if_pos fresh]
      split
      next atParent => simp [fresh, atParent]
      next elsewhere =>
        constructor
        · intro member
          exact absurd fresh (Nat.ne_of_lt (wellFormed.child_lt member))
        · intro same
          exact absurd (Option.some.inj same).symm elsewhere
    · rw [if_neg fresh, ← wellFormed.mem_children]
      split
      · simp [fresh]
      · rfl
  · intro id
    rw [children_grown inside]
    split
    · rw [List.nodup_append]
      refine ⟨wellFormed.nodup id, List.nodup_singleton _, ?_⟩
      intro child member other new
      rw [List.mem_singleton.mp new]
      exact Nat.ne_of_lt (wellFormed.child_lt member)
    · exact wellFormed.nodup id
  · intro id chain
    have old := transGen_of_grown wellFormed inside chain
    exact wellFormed.acyclic id (old.2 old.1)
  · intro id other found leaf
    rw [data?_grown inside] at found
    rw [children_grown inside]
    split at found
    next fresh =>
      rw [if_neg (fresh ▸ (Nat.ne_of_lt inside).symm)]
      exact WellFormed.children_of_absent (Nat.le_of_eq fresh.symm)
    next =>
      by_cases atParent : id = parent
      · rw [atParent, present] at found
        cases found
        rw [canHold] at leaf
        contradiction
      · rw [if_neg atParent]
        exact wellFormed.childless id other found leaf

theorem appendNew_eq (wellFormed : document.WellFormed)
    (holds : (document.data? parent).any NodeData.canHoldChildren = true)
    (notDocument : data.kind ≠ .document) :
    document.appendNew parent data =
      (.ok document.nodeCount, document.grown parent data) := by
  obtain ⟨parentData, present, canHold⟩ := (Option.any_eq_true _ _).mp holds
  have inside : parent < document.nodeCount := lt_of_data?_eq_some present
  have created := wellFormed.create data
  have sameParent : (document.create data).2.data? parent = some parentData := by
    rw [data?_create, if_neg (Nat.ne_of_lt inside), present]
  have sameChild : (document.create data).2.kind? document.nodeCount =
      some data.kind := by
    rw [kind?, data?_create, if_pos rfl]
    rfl
  have apart : (document.create data).2.isInclusiveAncestor document.nodeCount
      parent = false := by
    rw [Bool.eq_false_iff]
    intro above
    rw [created.isInclusiveAncestor_iff] at above
    rcases Relation.ReflTransGen.cases_tail above with same | ⟨_, _, hangs⟩
    · exact Nat.ne_of_lt inside same.symm
    · rw [HangsUnder, parent?_create] at hangs
      exact Nat.lt_irrefl _ (wellFormed.parent_lt hangs)
  have allowed : (document.create data).2.appendRefusal? parent
      document.nodeCount = none := by
    simp [appendRefusal?, sameParent, canHold, sameChild, notDocument, apart]
  have detached : (document.create data).2.detach document.nodeCount =
      (document.create data).2 := by
    rw [detach, parent?_create, parent?_of_absent (Nat.le_refl _)]
  rw [appendNew]
  simp only [appendChild]
  rw [show (document.create data).1 = document.nodeCount from rfl, allowed]
  simp only [detached]
  rfl

/-! ### Text -/

/-- The text node at the end of a node's children, with its text. -/
def lastText? (document : Document) (parent : NodeId) :
    Option (NodeId × String) :=
  (document.lastChild? parent).bind fun last =>
    match document.data? last with
    | some (.text text) => some (last, text)
    | _ => none

theorem lastText?_eq_some_iff {last : NodeId} {text : String} :
    document.lastText? parent = some (last, text) ↔
      document.lastChild? parent = some last ∧
        document.data? last = some (.text text) := by
  unfold lastText?
  cases document.lastChild? parent with
  | none => simp
  | some other =>
      simp only [Option.bind_some, Option.some.injEq]
      constructor
      · intro found
        split at found
        next old payload =>
          cases found
          exact ⟨rfl, payload⟩
        next => contradiction
      · rintro ⟨rfl, payload⟩
        rw [payload]

theorem appendText_eq_setData {last : NodeId} {old text : String}
    (nonempty : text ≠ "")
    (found : document.lastText? parent = some (last, old)) :
    document.appendText parent text =
      (.ok (), document.setData last (.text (old ++ text))) := by
  obtain ⟨isLast, payload⟩ := lastText?_eq_some_iff.mp found
  have notEmpty : text.isEmpty = false := by simpa using nonempty
  rw [appendText, notEmpty, isLast]
  simp only [Option.map_some, payload, Bool.false_eq_true, if_false]

theorem appendText_eq_grown (wellFormed : document.WellFormed)
    (holds : (document.data? parent).any NodeData.canHoldChildren = true)
    {text : String} (nonempty : text ≠ "")
    (absent : document.lastText? parent = none) :
    document.appendText parent text =
      (.ok (), document.grown parent (.text text)) := by
  have notEmpty : text.isEmpty = false := by simpa using nonempty
  have appended : document.appendNew parent (.text text) =
      (.ok document.nodeCount, document.grown parent (.text text)) :=
    appendNew_eq wellFormed holds (by simp [NodeData.kind])
  rw [appendText, notEmpty]
  simp only [Bool.false_eq_true, if_false, appended]
  cases isLast : document.lastChild? parent with
  | none => rfl
  | some last =>
      rw [Option.map_some]
      cases payload : document.data? last with
      | none => rfl
      | some data =>
          cases data with
          | text old =>
              rw [lastText?_eq_some_iff.mpr ⟨isLast, payload⟩] at absent
              contradiction
          | _ => rfl

theorem WellFormed.setData_text (wellFormed : document.WellFormed)
    {old : String} (payload : document.data? id = some (.text old))
    (text : String) : (document.setData id (.text text)).WellFormed := by
  refine (SameLinks.setData document id _).wellFormed ?_ wellFormed
  intro other
  rw [data?_setData]
  by_cases same : id = other
  · subst other
    simp [payload, NodeData.canHoldChildren]
  · rw [if_neg same]

/-! ### Fixed documents -/

/-- Whether the links at a node agree with those at its neighbours, with every
child created after its parent. -/
def hasOrderedLinks (document : Document) (id : NodeId) : Bool :=
  decide (document.children id).Nodup &&
    ((document.children id).all fun child =>
      document.parent? child = some id && decide (id < child)) &&
    ((document.parent? id).all fun parent =>
      (document.children parent).contains id) &&
    ((document.data? id).any NodeData.canHoldChildren ||
      (document.children id).isEmpty)

/-- A document is well-formed when its links can be checked one by one. -/
theorem wellFormed_of_hasOrderedLinks
    (checked : (List.range document.nodeCount).all document.hasOrderedLinks) :
    document.WellFormed := by
  have each : ∀ id < document.nodeCount,
      (document.children id).Nodup ∧
        (∀ child ∈ document.children id,
          document.parent? child = some id ∧ id < child) ∧
        (∀ parent, document.parent? id = some parent →
          id ∈ document.children parent) ∧
        ((document.data? id).any NodeData.canHoldChildren = true ∨
          document.children id = []) := by
    intro id inside
    have here := List.all_eq_true.mp checked id (List.mem_range.mpr inside)
    simpa [hasOrderedLinks, and_assoc, Option.all_eq_true] using here
  have childOf : ∀ parent, ∀ child ∈ document.children parent,
      document.parent? child = some parent ∧ parent < child :=
    fun parent child member =>
      (each parent (lt_of_mem_children member)).2.1 child member
  have mem : ∀ parent child, child ∈ document.children parent ↔
      document.parent? child = some parent := by
    intro parent child
    exact ⟨fun member => (childOf parent child member).1, fun hangs =>
      (each child (lt_of_parent?_eq_some hangs)).2.2.1 parent hangs⟩
  refine ⟨mem, ?_, ?_, ?_⟩
  · intro id
    by_cases inside : id < document.nodeCount
    · exact (each id inside).1
    · rw [WellFormed.children_of_absent (Nat.le_of_not_lt inside)]
      exact List.nodup_nil
  · intro id chain
    have smaller : ∀ below above,
        Relation.TransGen document.HangsUnder below above → above < below := by
      intro below above chain
      induction chain with
      | single hangs => exact (childOf _ _ ((mem _ _).mpr hangs)).2
      | tail _ hangs induction =>
          exact Nat.lt_trans (childOf _ _ ((mem _ _).mpr hangs)).2 induction
    exact Nat.lt_irrefl id (smaller id id chain)
  · intro id data found leaf
    rcases (each id (lt_of_data?_eq_some found)).2.2.2 with holds | none
    · rw [found] at holds
      simp [leaf] at holds
    · exact none

/-- The empty document holds nothing but the document node. -/
theorem data?_empty (present : empty.data? id = some data) :
    id = root ∧ data = .document := by
  have inside : id < 1 := lt_of_data?_eq_some present
  have first : id = 0 := Nat.lt_one_iff.mp inside
  rw [first] at present
  cases present
  exact ⟨first, rfl⟩

theorem children_empty (id : NodeId) : empty.children id = [] := by
  cases id with
  | zero => rfl
  | succ id => exact WellFormed.children_of_absent (Nat.le_add_left 1 id)

theorem wellFormed_empty : empty.WellFormed :=
  wellFormed_of_hasOrderedLinks (by decide)

theorem wellFormed_shell : shell.WellFormed :=
  wellFormed_of_hasOrderedLinks (by decide)

end MarkupHarden.Dom.Document
