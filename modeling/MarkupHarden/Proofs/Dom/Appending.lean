import MarkupHarden.Proofs.Dom.Levels
import MarkupHarden.Proofs.Dom.Rightmost

/-!
# Documents that grow at the right edge

`Appended` compares a document with a later one: nodes were added below one of
its nodes, each of them behind all that was there, and nothing else has changed,
except that a text in the last place has become longer.  The later document can
be changed further at its right edge, which `Edge` keeps track of: a node is
added there, or the text that comes last grows.
-/

namespace MarkupHarden.Dom

/-- The text of a text and nothing for any other payload. -/
def NodeData.ownText : NodeData → String
  | .text content => content
  | _ => ""

namespace Document

variable {document later : Document} {context parent top last : NodeId}
  {limit : Nat} {path : List NodeId} {data : NodeData} {old : String}

/-! ### Levels and texts at the right edge -/

namespace Rightmost

/-- Each node of a path lies one level below the next. -/
theorem levelsBelow (wellFormed : document.WellFormed) {node : NodeId}
    (rightmost : document.Rightmost (node :: path))
    (ends : (node :: path).getLast? = some top) :
    document.LevelsBelow top node path.length := by
  induction path generalizing node with
  | nil =>
      cases ends
      exact .top
  | cons outer path induction =>
      obtain ⟨isLast, rest⟩ := List.isChain_cons_cons.mp rightmost
      rw [List.getLast?_cons_cons] at ends
      exact .child (wellFormed.hangsUnder_of_lastChild? isLast)
        (induction rest ends)

/-- A text that is added at the right edge comes last. -/
theorem textContent_grown (wellFormed : document.WellFormed)
    (holds : (document.data? parent).any NodeData.canHoldChildren = true)
    (rightmost : document.Rightmost (parent :: path))
    (ends : (parent :: path).getLast? = some top) (data : NodeData) :
    (document.grown parent data).textContent top =
      document.textContent top ++ data.ownText := by
  obtain ⟨_, present, _⟩ := (Option.any_eq_true _ _).mp holds
  have inside := lt_of_data?_eq_some present
  have others : (document.subtree top).map
      (document.grown parent data).ownText =
        (document.subtree top).map document.ownText := by
    refine List.map_congr_left fun id member => ?_
    obtain ⟨isNode, below⟩ := (wellFormed.mem_subtree_iff id top).mp member
    rw [ownText, ownText,
      data?_grown_of_lt inside (WellFormed.lt_of_inSubtree below isNode)]
  have new : (document.grown parent data).ownText document.nodeCount =
      data.ownText := by
    rw [ownText, data?_grown inside, if_pos rfl]
    cases data <;> rfl
  rw [textContent, textContent,
    descendants_eq_subtree (wellFormed.grown holds data),
    descendants_eq_subtree wellFormed,
    rightmost.subtree_grown wellFormed holds ends, List.map_append,
    String.join_append, others]
  simp [new]

/-- A text in the last place is the end of all text. -/
theorem textContent_setData (wellFormed : document.WellFormed)
    (rightmost : document.Rightmost (parent :: path))
    (ends : (parent :: path).getLast? = some top)
    (found : document.lastText? parent = some (last, old)) (more : String) :
    (document.setData last (.text (old ++ more))).textContent top =
      document.textContent top ++ more := by
  obtain ⟨isLast, isText⟩ := lastText?_eq_some_iff.mp found
  have leaf : document.subtree last = [last] := by
    rw [wellFormed.subtree_eq (lt_of_data?_eq_some isText),
      wellFormed.childless last _ isText rfl]
    rfl
  have longer : document.Rightmost (last :: parent :: path) :=
    List.isChain_cons_cons.mpr ⟨isLast, rightmost⟩
  obtain ⟨before, split⟩ := longer.subtree_suffix wellFormed
    (by rw [List.getLast?_cons_cons, ends])
  rw [leaf] at split
  have distinct := wellFormed.nodup_subtree top
  rw [← split, List.nodup_append] at distinct
  have others : before.map
      (document.setData last (.text (old ++ more))).ownText =
        before.map document.ownText := by
    refine List.map_congr_left fun id member => ?_
    have different := distinct.2.2 id member last (List.mem_singleton_self _)
    rw [ownText, ownText, data?_setData_of_ne different.symm]
  have grows : (document.setData last (.text (old ++ more))).ownText last =
      document.ownText last ++ more := by
    rw [ownText, ownText, data?_setData, if_pos rfl, isText]
    rfl
  have same := SameLinks.setData document last (.text (old ++ more))
  rw [textContent, textContent,
    descendants_eq_subtree (wellFormed.setData_text isText _),
    descendants_eq_subtree wellFormed, same.subtree, ← split]
  simp only [List.map_append, String.join_append, others, List.map_cons,
    List.map_nil, grows, String.join_cons, String.join_nil, String.append_empty,
    String.append_assoc]

end Rightmost

/-! ### What is appended -/

/-- A later document in which nodes were appended below `context`, at most
`limit` levels deep. -/
structure Appended (document : Document) (context : NodeId) (limit : Nat)
    (later : Document) : Prop where
  wellFormed : later.WellFormed
  nodeCount : document.nodeCount ≤ later.nodeCount
  parent? : ∀ id < document.nodeCount, later.parent? id = document.parent? id
  children : ∀ id < document.nodeCount, id ≠ context →
    later.children id = document.children id
  /-- New children come behind the old ones. -/
  behind : ∃ new, later.children context = document.children context ++ new ∧
    ∀ id ∈ new, document.nodeCount ≤ id
  /-- A text that was the last child may have become longer. -/
  data? : ∀ id < document.nodeCount, later.data? id = document.data? id ∨
    document.lastChild? context = some id ∧
      ∃ text more, document.data? id = some (.text text) ∧
        later.data? id = some (.text (text ++ more))
  /-- In document order the new nodes come last, in order of creation. -/
  descendants : later.descendants context = document.descendants context ++
    List.range' document.nodeCount (later.nodeCount - document.nodeCount)
  shallow : ∀ id, document.nodeCount ≤ id → id < later.nodeCount →
    ∃ levels ≤ limit, later.LevelsBelow context id levels

/-- A path up to `context` along the right edge, all others being new. -/
structure Edge (document : Document) (context : NodeId) (limit : Nat)
    (later : Document) (path : List NodeId) : Prop where
  rightmost : later.Rightmost path
  outermost : path.getLast? = some context
  newer : ∀ node ∈ path, node = context ∨ document.nodeCount ≤ node
  short : path.length ≤ limit

theorem Appended.refl (wellFormed : document.WellFormed) (context : NodeId)
    (limit : Nat) : Appended document context limit document where
  wellFormed := wellFormed
  nodeCount := Nat.le_refl _
  parent? := fun _ _ => rfl
  children := fun _ _ _ => rfl
  behind := ⟨[], (List.append_nil _).symm, nofun⟩
  data? := fun _ _ => .inl rfl
  descendants := by rw [Nat.sub_self, List.range'_zero, List.append_nil]
  shallow := fun _ new inside => absurd inside (Nat.not_lt.mpr new)

namespace Edge

/-- Some of the innermost nodes are left. -/
theorem suffix (edge : Edge document context limit later path)
    {shorter : List NodeId} (suffix : shorter <:+ path)
    (notEmpty : shorter ≠ []) : Edge document context limit later shorter where
  rightmost := edge.rightmost.of_suffix suffix
  outermost := by
    obtain ⟨before, rfl⟩ := suffix
    rw [← edge.outermost, List.getLast?_append_of_ne_nil _ notEmpty]
  newer := fun node member => edge.newer node (suffix.subset member)
  short := suffix.length_le.trans edge.short

section Grown

variable (edge : Edge document context limit later (parent :: path))
  (appended : Appended document context limit later)

include edge appended

section

variable (holds : (later.data? parent).any NodeData.canHoldChildren = true)

include holds

/-- A node is added to the innermost node of the edge. -/
theorem grown (data : NodeData) :
    Appended document context limit (later.grown parent data) := by
  obtain ⟨_, present, _⟩ := (Option.any_eq_true _ _).mp holds
  have inside := lt_of_data?_eq_some present
  have old {id : NodeId} (before : id < document.nodeCount) :
      id < later.nodeCount := Nat.lt_of_lt_of_le before appended.nodeCount
  refine
    { wellFormed := appended.wellFormed.grown holds data
      nodeCount := appended.nodeCount.trans (by simp)
      parent? := ?_, children := ?_, behind := ?_, data? := ?_
      descendants := ?_, shallow := ?_ }
  · intro id before
    rw [parent?_grown inside, if_neg (Nat.ne_of_lt (old before))]
    exact appended.parent? id before
  · intro id before different
    rw [children_grown inside, if_neg]
    · exact appended.children id before different
    · rintro rfl
      rcases edge.newer id List.mem_cons_self with same | new
      · exact different same
      · exact Nat.not_lt.mpr new before
  · obtain ⟨new, children, areNew⟩ := appended.behind
    rw [children_grown inside]
    split
    · refine ⟨new ++ [later.nodeCount], by rw [children, List.append_assoc], ?_⟩
      exact List.forall_mem_append.mpr
        ⟨areNew, List.forall_mem_singleton.mpr appended.nodeCount⟩
    · exact ⟨new, children, areNew⟩
  · intro id before
    rw [data?_grown_of_lt inside (old before)]
    exact appended.data? id before
  · have more : later.nodeCount + 1 - document.nodeCount =
        later.nodeCount - document.nodeCount + 1 :=
      Nat.succ_sub appended.nodeCount
    have next : document.nodeCount +
        (later.nodeCount - document.nodeCount) = later.nodeCount :=
      Nat.add_sub_cancel' appended.nodeCount
    rw [descendants_eq_subtree (appended.wellFormed.grown holds data),
      edge.rightmost.subtree_grown appended.wellFormed holds edge.outermost,
      ← descendants_eq_subtree appended.wellFormed, appended.descendants,
      nodeCount_grown, more, List.range'_1_concat, next, List.append_assoc]
  · intro id new isNode
    rw [nodeCount_grown] at isNode
    rcases Nat.lt_succ_iff_lt_or_eq.mp isNode with earlier | rfl
    · obtain ⟨levels, few, below⟩ := appended.shallow id new earlier
      exact ⟨levels, few, below.grown inside data⟩
    · have above :=
        edge.rightmost.levelsBelow appended.wellFormed edge.outermost
      refine ⟨path.length + 1, edge.short, .child ?_ (above.grown inside data)⟩
      rw [parent?_grown inside, if_pos rfl]

/-- The edge stays where it is when its innermost node gets a child. -/
theorem stays (data : NodeData) :
    Edge document context limit (later.grown parent data) (parent :: path) :=
  { edge with
    rightmost := (edge.rightmost.grown appended.wellFormed holds data).tail }

/-- The edge leads to the new node unless it is too long. -/
theorem lengthened (short : path.length + 1 < limit) (data : NodeData) :
    Edge document context limit (later.grown parent data)
      (later.nodeCount :: parent :: path) where
  rightmost := edge.rightmost.grown appended.wellFormed holds data
  outermost := by rw [List.getLast?_cons_cons, edge.outermost]
  newer := List.forall_mem_cons.mpr ⟨.inr appended.nodeCount, edge.newer⟩
  short := short

end

variable (wellFormed : document.WellFormed)
  (found : later.lastText? parent = some (last, old))

include wellFormed found

/-- An old text can only grow as the last one of the old children. -/
private theorem lastChild?_of_old (before : last < document.nodeCount) :
    document.lastChild? context = some last := by
  obtain ⟨isLast, _⟩ := lastText?_eq_some_iff.mp found
  have hangs : document.HangsUnder last parent :=
    (appended.parent? last before).symm.trans
      (appended.wellFormed.hangsUnder_of_lastChild? isLast)
  have atContext : parent = context := by
    rcases edge.newer parent List.mem_cons_self with same | new
    · exact same
    · exact absurd (wellFormed.parent_lt hangs) (Nat.not_lt.mpr new)
  subst atContext
  -- A new child would come behind the text.
  obtain ⟨new, children, areNew⟩ := appended.behind
  have nothingNew : new = [] := by
    by_contra some
    rw [lastChild?, children, List.getLast?_append_of_ne_nil _ some] at isLast
    exact Nat.not_lt.mpr (areNew last (List.mem_of_getLast? isLast)) before
  rw [lastChild?, children, nothingNew, List.append_nil] at isLast
  exact isLast

/-- The text in the last place becomes longer. -/
theorem setData (more : String) :
    Appended document context limit
      (later.setData last (.text (old ++ more))) := by
  obtain ⟨_, isText⟩ := lastText?_eq_some_iff.mp found
  have same := SameLinks.setData later last (.text (old ++ more))
  have changed := appended.wellFormed.setData_text isText (old ++ more)
  refine
    { wellFormed := changed
      nodeCount := appended.nodeCount.trans (Nat.le_of_eq same.nodeCount.symm)
      parent? := fun id before => ?_
      children := fun id before different => ?_
      behind := ?_, data? := ?_, descendants := ?_, shallow := ?_ }
  · rw [parent?_setData, appended.parent? id before]
  · rw [children_setData, appended.children id before different]
  · rw [children_setData]
    exact appended.behind
  · intro id before
    rw [data?_setData]
    split
    next grows =>
      subst grows
      refine .inr ⟨edge.lastChild?_of_old appended wellFormed found before, ?_⟩
      -- The text may have grown before.
      rcases appended.data? last before with
        unchanged | ⟨_, text, added, isOld, grown⟩
      · exact ⟨old, more, unchanged.symm.trans isText, by rw [isText]; rfl⟩
      · have whole : old = text ++ added := by
          rw [isText] at grown
          exact NodeData.text.inj (Option.some.inj grown)
        refine ⟨text, added ++ more, isOld, ?_⟩
        rw [isText, whole, String.append_assoc]
        rfl
    next => exact appended.data? id before
  · rw [descendants_eq_subtree changed, same.subtree, nodeCount_setData,
      ← descendants_eq_subtree appended.wellFormed]
    exact appended.descendants
  · intro id new inside
    rw [same.nodeCount] at inside
    obtain ⟨levels, few, below⟩ := appended.shallow id new inside
    exact ⟨levels, few, below.of_parent?_eq fun _ => (parent?_setData _).symm⟩

end Grown

/-- The edge does not depend on payloads. -/
theorem congr (edge : Edge document context limit later path) (id : NodeId)
    (data : NodeData) :
    Edge document context limit (later.setData id data) path :=
  { edge with
    rightmost := edge.rightmost.congr fun other _ => by
      rw [lastChild?, lastChild?, children_setData] }

end Edge

end Document

end MarkupHarden.Dom
