import MarkupHarden.Proofs.Dom.Tree

/-!
# Copying between documents

A copy is made node by node, each below the copy of its parent.  The copies of
the children of one node are made together and wait, latest first, for what
lies below them.  `WorksOff` says that no copy is left waiting after a number of
rounds.  The tree below a copy then is the tree below the node it copies,
whatever else was waiting, and older nodes stay as they were.
-/

namespace MarkupHarden.Dom.Document

/-- Each pair is a node of `source` with its copy, below which nothing has been
copied yet. -/
structure Awaiting (source document : Document)
    (pairs : List (NodeId × NodeId)) : Prop where
  inside : ∀ pair ∈ pairs, pair.2 < document.nodeCount
  data? : ∀ pair ∈ pairs, document.data? pair.2 = source.data? pair.1
  bare : ∀ pair ∈ pairs, document.children pair.2 = []
  distinct : (pairs.map Prod.snd).Nodup

/-- The nodes of `document` are in `after` as they were, except that those in
`parents` may have got children. -/
structure Fills (parents : List NodeId) (document after : Document) : Prop where
  nodeCount : document.nodeCount ≤ after.nodeCount
  data? : ∀ id < document.nodeCount, after.data? id = document.data? id
  parent? : ∀ id < document.nodeCount, after.parent? id = document.parent? id
  children : ∀ id < document.nodeCount, id ∉ parents →
    after.children id = document.children id

variable {source document middle after : Document}

namespace Fills

theorem refl (parents : List NodeId) (document : Document) :
    Fills parents document document :=
  ⟨Nat.le_refl _, fun _ _ => rfl, fun _ _ => rfl, fun _ _ _ => rfl⟩

theorem trans {parents later all : List NodeId}
    (first : Fills parents document middle) (second : Fills later middle after)
    (covers : ∀ id < document.nodeCount, id ∉ all → id ∉ parents ∧ id ∉ later) :
    Fills all document after where
  nodeCount := first.nodeCount.trans second.nodeCount
  data? := fun id old =>
    (second.data? id (old.trans_le first.nodeCount)).trans (first.data? id old)
  parent? := fun id old =>
    (second.parent? id (old.trans_le first.nodeCount)).trans
      (first.parent? id old)
  children := by
    intro id old apart
    obtain ⟨notFirst, notSecond⟩ := covers id old apart
    rw [second.children id (old.trans_le first.nodeCount) notSecond,
      first.children id old notFirst]

theorem grown {parent : NodeId} (inside : parent < document.nodeCount)
    (data : NodeData) :
    Fills [parent] document (document.grown parent data) where
  nodeCount := nodeCount_grown ▸ Nat.le_succ _
  data? := fun _ old => data?_grown_of_lt inside old
  parent? := fun _ old => by
    rw [parent?_grown inside, if_neg (Nat.ne_of_lt old)]
  children := fun _ _ apart => by
    rw [children_grown inside, if_neg (List.ne_of_not_mem_cons apart)]

/-- A node that keeps its children is the same node. -/
theorem node? {parents : List NodeId} (fills : Fills parents document after)
    {id : NodeId} (old : id < document.nodeCount) (apart : id ∉ parents) :
    after.node? id = document.node? id := by
  have data := fills.data? id old
  have parent := fills.parent? id old
  have children := fills.children id old apart
  unfold Document.data? Document.parent? Document.children at *
  cases before : document.node? id with
  | none => exact absurd (node?_eq_none_iff.mp before) (Nat.not_le.mpr old)
  | some node =>
      cases now : after.node? id with
      | none =>
          exact absurd (node?_eq_none_iff.mp now)
            (Nat.not_le.mpr (old.trans_le fills.nodeCount))
      | some later =>
          rw [before, now] at data parent children
          obtain ⟨_, _, _⟩ := node
          obtain ⟨_, _, _⟩ := later
          cases data
          cases parent
          cases children
          rfl

end Fills

namespace Awaiting

variable {pairs : List (NodeId × NodeId)}

theorem exists_data (awaiting : Awaiting source document pairs)
    {pair : NodeId × NodeId} (member : pair ∈ pairs) :
    ∃ data, source.data? pair.1 = some data ∧
      document.data? pair.2 = some data := by
  obtain ⟨data, present⟩ := exists_data_of_lt (awaiting.inside pair member)
  exact ⟨data, (awaiting.data? pair member).symm.trans present, present⟩

/-- The copy of a node that has children can hold children. -/
theorem canHoldChildren (awaiting : Awaiting source document pairs)
    (sourceWellFormed : source.WellFormed) {pair : NodeId × NodeId}
    (member : pair ∈ pairs) (parental : source.children pair.1 ≠ []) :
    (document.data? pair.2).any NodeData.canHoldChildren = true := by
  obtain ⟨data, present, copied⟩ := awaiting.exists_data member
  rw [copied, Option.any_some]
  cases canHold : data.canHoldChildren with
  | true => rfl
  | false =>
      exact absurd (sourceWellFormed.childless pair.1 data present canHold)
        parental

end Awaiting

/-! ### The children of one node -/

/-- The outcome of copying the children `ids` of a source node below `parent`:
one new node for each of them, in order. -/
structure CopiesBelow (source : Document) (parent : NodeId) (ids : List NodeId)
    (document after : Document) (copies : List (NodeId × NodeId)) : Prop where
  wellFormed : after.WellFormed
  fills : Fills [parent] document after
  sources : copies.map Prod.fst = ids
  children : after.children parent =
    document.children parent ++ copies.map Prod.snd
  fresh : ∀ pair ∈ copies, document.nodeCount ≤ pair.2
  awaiting : Awaiting source after copies

/-- The first child is copied before the others. -/
private theorem CopiesBelow.cons {parent child : NodeId} {ids : List NodeId}
    {data : NodeData} {copies : List (NodeId × NodeId)}
    (payload : source.data? child = some data)
    (inside : parent < document.nodeCount)
    (others : CopiesBelow source parent ids (document.grown parent data) after
      copies) :
    CopiesBelow source parent (child :: ids) document after
      ((child, document.nodeCount) :: copies) := by
  have isNew : document.nodeCount <
      (document.grown parent data).nodeCount := by
    rw [nodeCount_grown]
    exact Nat.lt_succ_self _
  have later : ∀ pair ∈ copies, document.nodeCount < pair.2 :=
    fun pair member => isNew.trans_le (others.fresh pair member)
  have notParent : document.nodeCount ≠ parent := (Nat.ne_of_lt inside).symm
  have data? : after.data? document.nodeCount = source.data? child := by
    rw [others.fills.data? _ isNew, data?_grown inside, if_pos rfl, payload]
  have bare : after.children document.nodeCount = [] := by
    rw [others.fills.children _ isNew (by simpa using notParent),
      children_grown inside, if_neg notParent]
    exact WellFormed.children_of_absent (Nat.le_refl _)
  refine ⟨others.wellFormed, (Fills.grown inside data).trans others.fills ?_,
    ?_, ?_, ?_, ?_⟩
  · exact fun id _ apart => ⟨apart, apart⟩
  · rw [List.map_cons, others.sources]
  · rw [others.children, children_grown inside, if_pos rfl, List.append_assoc]
    rfl
  · exact List.forall_mem_cons.mpr
      ⟨Nat.le_refl _, fun pair member => (later pair member).le⟩
  · refine ⟨?_, ?_, ?_, ?_⟩
    · exact List.forall_mem_cons.mpr
        ⟨isNew.trans_le others.fills.nodeCount, others.awaiting.inside⟩
    · exact List.forall_mem_cons.mpr ⟨data?, others.awaiting.data?⟩
    · exact List.forall_mem_cons.mpr ⟨bare, others.awaiting.bare⟩
    · rw [List.map_cons, List.nodup_cons]
      refine ⟨?_, others.awaiting.distinct⟩
      intro member
      obtain ⟨pair, isCopy, same⟩ := List.mem_map.mp member
      exact Nat.ne_of_lt (later pair isCopy) same.symm

theorem copyChildren_eq (wellFormed : document.WellFormed)
    {parent : NodeId} (ids : List NodeId)
    (present : ∀ id ∈ ids, id < source.nodeCount)
    (holds : ids ≠ [] →
      (document.data? parent).any NodeData.canHoldChildren = true)
    (pairs : List (NodeId × NodeId)) :
    ∃ after copies,
      copyChildren source parent ids document pairs =
        (after, copies.reverse ++ pairs) ∧
      CopiesBelow source parent ids document after copies := by
  induction ids generalizing document pairs with
  | nil =>
      exact ⟨document, [], rfl, wellFormed, .refl _ _, rfl, by simp, nofun,
        nofun, nofun, nofun, List.nodup_nil⟩
  | cons child ids induction =>
      obtain ⟨childPresent, othersPresent⟩ := List.forall_mem_cons.mp present
      obtain ⟨data, payload⟩ := exists_data_of_lt childPresent
      have canHold := holds (List.cons_ne_nil child ids)
      obtain ⟨_, found, _⟩ := (Option.any_eq_true _ _).mp canHold
      have inside := lt_of_data?_eq_some found
      have stillHolds : ids ≠ [] →
          ((document.grown parent data).data? parent).any
            NodeData.canHoldChildren = true := by
        intro _
        rw [data?_grown_of_lt inside inside]
        exact canHold
      obtain ⟨after, copies, copied, below⟩ :=
        induction (wellFormed.grown canHold data) othersPresent stillHolds
          ((child, document.nodeCount) :: pairs)
      refine ⟨after, (child, document.nodeCount) :: copies, ?_,
        below.cons payload inside⟩
      rw [copyChildren, payload, List.reverse_cons, List.append_assoc]
      exact copied

/-! ### Rounds -/

/-- The children of pending nodes are copied round by round, the latest pair
first, until no pair is left. -/
inductive WorksOff (source : Document) :
    Nat → List (NodeId × NodeId) → Document → Document → Prop where
  | done {document : Document} : WorksOff source 0 [] document document
  | round {rounds : Nat} {node copy : NodeId}
      {pending copied : List (NodeId × NodeId)}
      {document middle after : Document} :
      copyChildren source copy (source.children node) document [] =
        (middle, copied) →
      WorksOff source rounds (copied ++ pending) middle after →
      WorksOff source (rounds + 1) ((node, copy) :: pending) document after

private theorem copyChildren_counts (parent : NodeId) (ids : List NodeId)
    (present : ∀ id ∈ ids, id < source.nodeCount)
    (pairs : List (NodeId × NodeId)) {copied : List (NodeId × NodeId)}
    (outcome : copyChildren source parent ids document pairs =
      (after, copied)) :
    copied.map Prod.fst = ids.reverse ++ pairs.map Prod.fst ∧
      after.nodeCount = document.nodeCount + ids.length := by
  induction ids generalizing document pairs with
  | nil =>
      cases outcome
      exact ⟨rfl, rfl⟩
  | cons child ids induction =>
      obtain ⟨childPresent, othersPresent⟩ := List.forall_mem_cons.mp present
      obtain ⟨data, payload⟩ := exists_data_of_lt childPresent
      rw [copyChildren, payload] at outcome
      have rest : copyChildren source parent ids (document.grown parent data)
          ((child, document.nodeCount) :: pairs) = (after, copied) := outcome
      obtain ⟨sources, count⟩ := induction othersPresent _ rest
      constructor
      · rw [sources, List.reverse_cons, List.append_assoc]
        rfl
      · rw [count, nodeCount_grown, List.length_cons]
        omega

/-- The source nodes of a round, and the number of nodes that it makes. -/
private theorem counts_of_round (sourceWellFormed : source.WellFormed)
    {node copy : NodeId} {copied : List (NodeId × NodeId)}
    (outcome : copyChildren source copy (source.children node) document [] =
      (middle, copied)) :
    copied.map Prod.fst = (source.children node).reverse ∧
      middle.nodeCount = document.nodeCount + copied.length := by
  have known : ∀ id ∈ source.children node, id < source.nodeCount :=
    fun _ member => sourceWellFormed.child_lt member
  obtain ⟨sources, count⟩ := copyChildren_counts copy _ known [] outcome
  rw [List.map_nil, List.append_nil] at sources
  refine ⟨sources, ?_⟩
  rw [count, ← List.length_reverse, ← sources, List.length_map]

/-- Of the nodes in the subtrees of several nodes, one is left behind when a
node gives way to its children. -/
theorem WellFormed.length_subtrees_next (wellFormed : document.WellFormed)
    {id : NodeId} (inside : id < document.nodeCount) (rest : List NodeId) :
    (document.subtrees (id :: rest)).length =
      (document.subtrees ((document.children id).reverse ++ rest)).length +
        1 := by
  have permuted : (document.subtrees (document.children id).reverse).length =
      (document.subtrees (document.children id)).length :=
    ((List.reverse_perm _).flatMap_right _).length_eq
  have split : document.subtrees ((document.children id).reverse ++ rest) =
      document.subtrees (document.children id).reverse ++
        document.subtrees rest :=
    List.flatMap_append
  rw [subtrees_cons, wellFormed.subtree_eq inside, split, List.length_append,
    List.length_cons, List.length_append, permuted]
  omega

/-- As many rounds as there are nodes to copy are enough. -/
private theorem worksOff_copyPending (sourceWellFormed : source.WellFormed)
    (limit : Nat) {pending : List (NodeId × NodeId)}
    (present : ∀ id ∈ pending.map Prod.fst, id < source.nodeCount)
    (enough : (source.subtrees (pending.map Prod.fst)).length ≤ limit) :
    WorksOff source (source.subtrees (pending.map Prod.fst)).length pending
      document (copyPending source limit pending document) := by
  induction limit generalizing document pending with
  | zero =>
      cases pending with
      | nil =>
          rw [copyPending]
          exact .done
      | cons pair pending =>
          have inside := present pair.1 List.mem_cons_self
          rw [List.map_cons, subtrees_cons,
            sourceWellFormed.subtree_eq inside] at enough
          contradiction
  | succ limit induction =>
      cases pending with
      | nil =>
          rw [copyPending]
          · exact .done
          · simp
      | cons pair pending =>
          obtain ⟨node, copy⟩ := pair
          rw [List.map_cons] at present enough ⊢
          obtain ⟨inside, others⟩ := List.forall_mem_cons.mp present
          cases outcome :
              copyChildren source copy (source.children node) document [] with
          | mk middle copied =>
              have sources := (counts_of_round sourceWellFormed outcome).1
              rw [sourceWellFormed.length_subtrees_next inside, ← sources,
                ← List.map_append] at enough ⊢
              rw [copyPending, outcome]
              apply WorksOff.round outcome
              apply induction
              · rw [List.map_append, sources]
                intro id member
                rcases List.mem_append.mp member with below | waiting
                · exact sourceWellFormed.child_lt (List.mem_reverse.mp below)
                · exact others id waiting
              · exact Nat.le_of_succ_le_succ enough

/-- Each round makes one node for each pair that it leaves behind. -/
theorem WorksOff.nodeCount (sourceWellFormed : source.WellFormed)
    {rounds : Nat} {pending : List (NodeId × NodeId)}
    (worksOff : WorksOff source rounds pending document after) :
    after.nodeCount + pending.length = document.nodeCount + rounds := by
  induction worksOff with
  | done => rfl
  | round outcome _ induction =>
      have count := (counts_of_round sourceWellFormed outcome).2
      rw [List.length_append] at induction
      rw [List.length_cons]
      omega

/-! ### Whole trees -/

/-- A source node leaves the list of pending pairs for its children. -/
theorem Awaiting.next {node copy : NodeId}
    {pending copies : List (NodeId × NodeId)}
    (awaiting : Awaiting source document ((node, copy) :: pending))
    (below : CopiesBelow source copy (source.children node) document middle
      copies) :
    Awaiting source middle (copies.reverse ++ pending) := by
  obtain ⟨_, inside⟩ := List.forall_mem_cons.mp awaiting.inside
  obtain ⟨_, data?⟩ := List.forall_mem_cons.mp awaiting.data?
  obtain ⟨_, bare⟩ := List.forall_mem_cons.mp awaiting.bare
  have distinct := awaiting.distinct
  rw [List.map_cons, List.nodup_cons] at distinct
  have split {motive : NodeId × NodeId → Prop}
      (new : ∀ pair ∈ copies, motive pair)
      (old : ∀ pair ∈ pending, motive pair) :
      ∀ pair ∈ copies.reverse ++ pending, motive pair := by
    intro pair member
    rcases List.mem_append.mp member with isNew | isOld
    · exact new pair (List.mem_reverse.mp isNew)
    · exact old pair isOld
  refine ⟨split below.awaiting.inside ?_, split below.awaiting.data? ?_,
    split below.awaiting.bare ?_, ?_⟩
  · exact fun pair member =>
      (inside pair member).trans_le below.fills.nodeCount
  · intro pair member
    rw [below.fills.data? _ (inside pair member), data? pair member]
  · intro pair member
    have apart : pair.2 ∉ [copy] := by
      intro same
      rw [← List.mem_singleton.mp same] at distinct
      exact distinct.1 (List.mem_map.mpr ⟨pair, member, rfl⟩)
    rw [below.fills.children _ (inside pair member) apart, bare pair member]
  · rw [List.map_append, List.map_reverse, List.nodup_append]
    refine ⟨List.nodup_reverse.mpr below.awaiting.distinct, distinct.2, ?_⟩
    rintro _ isNew _ isOld rfl
    obtain ⟨new, newMember, same⟩ :=
      List.mem_map.mp (List.mem_reverse.mp isNew)
    obtain ⟨old, oldMember, rfl⟩ := List.mem_map.mp isOld
    have fresh := below.fresh new newMember
    rw [same] at fresh
    exact absurd (inside old oldMember) (Nat.not_lt.mpr fresh)

/-- The copy of a node whose children have been copied is its tree when the
copies of the children are theirs. -/
private theorem CopiesBelow.tree_eq (sourceWellFormed : source.WellFormed)
    {node copy : NodeId} {pending copies : List (NodeId × NodeId)}
    (awaiting : Awaiting source document ((node, copy) :: pending))
    (below : CopiesBelow source copy (source.children node) document middle
      copies)
    (wellFormed : after.WellFormed)
    (fills : Fills ((copies.reverse ++ pending).map Prod.snd) middle after)
    (trees : ∀ pair ∈ copies, after.tree pair.2 = source.tree pair.1) :
    after.tree copy = source.tree node := by
  obtain ⟨inside, _⟩ := List.forall_mem_cons.mp awaiting.inside
  have still := inside.trans_le below.fills.nodeCount
  have distinct := awaiting.distinct
  rw [List.map_cons, List.nodup_cons] at distinct
  have apart : copy ∉ (copies.reverse ++ pending).map Prod.snd := by
    rw [List.map_append, List.mem_append, not_or]
    refine ⟨?_, distinct.1⟩
    intro isNew
    obtain ⟨pair, member, same⟩ := List.mem_map.mp isNew
    have fresh := below.fresh pair (List.mem_reverse.mp member)
    rw [same] at fresh
    exact absurd inside (Nat.not_lt.mpr fresh)
  have data : after.data? copy = source.data? node := by
    rw [fills.data? copy still, below.fills.data? copy inside]
    exact awaiting.data? _ List.mem_cons_self
  have children : after.children copy = copies.map Prod.snd := by
    rw [fills.children copy still apart, below.children,
      awaiting.bare (node, copy) List.mem_cons_self, List.nil_append]
  have forest : after.forest copy = source.forest node := by
    rw [Document.forest, Document.forest, children, ← below.sources,
      List.map_map, List.map_map]
    exact List.map_congr_left trees
  rw [wellFormed.tree_eq, sourceWellFormed.tree_eq, data, forest]

/-- Below every pending copy the tree of its source node is built. -/
private theorem WorksOff.builds (sourceWellFormed : source.WellFormed)
    {rounds : Nat} {pending : List (NodeId × NodeId)}
    (worksOff : WorksOff source rounds pending document after)
    (wellFormed : document.WellFormed)
    (awaiting : Awaiting source document pending) :
    after.WellFormed ∧
      (∀ pair ∈ pending, after.tree pair.2 = source.tree pair.1) ∧
      Fills (pending.map Prod.snd) document after := by
  induction worksOff with
  | done => exact ⟨wellFormed, nofun, .refl [] _⟩
  | @round _ node copy pending _ document middle after outcome _ induction =>
      have known : ∀ id ∈ source.children node, id < source.nodeCount :=
        fun _ member => sourceWellFormed.child_lt member
      obtain ⟨_, copies, copied, below⟩ :=
        copyChildren_eq wellFormed (source.children node) known
          (awaiting.canHoldChildren sourceWellFormed List.mem_cons_self) []
      rw [outcome, List.append_nil] at copied
      obtain ⟨rfl, rfl⟩ := Prod.mk.inj copied
      obtain ⟨later, trees, fills⟩ :=
        induction below.wellFormed (awaiting.next below)
      have here := below.tree_eq sourceWellFormed awaiting later fills
        fun pair member => trees pair
          (List.mem_append_left _ (List.mem_reverse.mpr member))
      refine ⟨later, List.forall_mem_cons.mpr ⟨here, fun pair member =>
        trees pair (List.mem_append_right _ member)⟩,
        below.fills.trans fills ?_⟩
      intro id old apart
      rw [List.map_cons, List.mem_cons, not_or] at apart
      refine ⟨fun same => apart.1 (List.mem_singleton.mp same), ?_⟩
      rw [List.map_append, List.mem_append, not_or]
      refine ⟨?_, apart.2⟩
      intro isNew
      obtain ⟨pair, member, rfl⟩ := List.mem_map.mp isNew
      exact absurd old
        (Nat.not_lt.mpr (below.fresh pair (List.mem_reverse.mp member)))

/-! ### Imports -/

/-- The copy of a node begins without children. -/
theorem Awaiting.create (document : Document) {id : NodeId} {data : NodeData}
    (present : source.data? id = some data) :
    Awaiting source (document.create data).2 [(id, document.nodeCount)] := by
  refine ⟨?_, ?_, ?_, List.nodup_singleton _⟩
  · rw [List.forall_mem_singleton, nodeCount_create]
    exact Nat.lt_succ_self _
  · rw [List.forall_mem_singleton, data?_create, if_pos rfl, present]
  · rw [List.forall_mem_singleton, children_create]
    exact WellFormed.children_of_absent (Nat.le_refl _)

/-- The import of a node other than a document works off the new copy of that
node, in one round for each node below it and one for the node itself. -/
theorem WellFormed.importNode_worksOff (sourceWellFormed : source.WellFormed)
    (document : Document) {id : NodeId} {data : NodeData}
    (present : source.data? id = some data) (notDocument : data ≠ .document) :
    ∃ after, document.importNode source id = (.ok document.nodeCount, after) ∧
      WorksOff source (source.subtree id).length [(id, document.nodeCount)]
        (document.create data).2 after := by
  have whole : source.subtrees ([(id, document.nodeCount)].map Prod.fst) =
      source.subtree id := List.append_nil _
  have works : WorksOff source (source.subtree id).length
      [(id, document.nodeCount)] (document.create data).2
      (copyPending source source.nodeCount [(id, document.nodeCount)]
        (document.create data).2) := by
    rw [← whole]
    apply worksOff_copyPending sourceWellFormed source.nodeCount
    · exact List.forall_mem_singleton.mpr (lt_of_data?_eq_some present)
    · rw [whole]
      exact sourceWellFormed.length_subtree_le id
  refine ⟨_, ?_, works⟩
  unfold Document.importNode
  rw [present]
  split
  next absent => cases absent
  next isDocument => exact absurd (Option.some.inj isDocument) notDocument
  next found =>
    cases found
    rfl

/-- A node other than a document is copied, with everything below it, into a
new node without a parent; the older nodes stay as they were. -/
theorem WellFormed.importNode_eq (wellFormed : document.WellFormed)
    (sourceWellFormed : source.WellFormed) {id : NodeId} {data : NodeData}
    (present : source.data? id = some data) (notDocument : data ≠ .document) :
    ∃ after, document.importNode source id = (.ok document.nodeCount, after) ∧
      after.WellFormed ∧
      after.data? document.nodeCount = some data ∧
      after.parent? document.nodeCount = none ∧
      after.tree document.nodeCount = source.tree id ∧
      ∀ other < document.nodeCount,
        after.node? other = document.node? other := by
  have isNew : document.nodeCount < (document.create data).2.nodeCount := by
    rw [nodeCount_create]
    exact Nat.lt_succ_self _
  have awaiting := Awaiting.create document present
  obtain ⟨after, imported, works⟩ :=
    sourceWellFormed.importNode_worksOff document present notDocument
  obtain ⟨later, trees, fills⟩ :=
    works.builds sourceWellFormed (wellFormed.create data) awaiting
  refine ⟨after, imported, later, ?_, ?_, trees _ List.mem_cons_self, ?_⟩
  · rw [fills.data? _ isNew, data?_create, if_pos rfl]
  · rw [fills.parent? _ isNew, parent?_create]
    exact parent?_of_absent (Nat.le_refl _)
  · intro other old
    have apart : other ∉ [(id, document.nodeCount)].map Prod.snd := by
      simpa using Nat.ne_of_lt old
    rw [fills.node? (old.trans isNew) apart, node?_create,
      if_neg (Nat.ne_of_lt old)]

theorem WellFormed.importNode (wellFormed : document.WellFormed)
    (sourceWellFormed : source.WellFormed) (id : NodeId) :
    (document.importNode source id).2.WellFormed := by
  cases present : source.data? id with
  | none =>
      rw [Document.importNode, present]
      exact wellFormed
  | some data =>
      by_cases isDocument : data = .document
      · rw [Document.importNode, present, isDocument]
        exact wellFormed
      · obtain ⟨after, imported, later, _⟩ :=
          wellFormed.importNode_eq sourceWellFormed present isDocument
        rw [imported]
        exact later

end MarkupHarden.Dom.Document
