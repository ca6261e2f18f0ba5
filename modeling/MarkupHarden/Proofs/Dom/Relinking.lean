import MarkupHarden.Proofs.Dom.Growth

/-!
# Taking nodes out and putting them in

Whatever is asked of a well-formed document, it stays well-formed: a node is
detached, appended or put in the place of another one, or the request is
refused.  The only link that any of these adds leads from a node without a
parent to one that does not lie below it, so `acyclic_of_link` keeps the
ancestors free of cycles.
-/

namespace MarkupHarden.Dom.Document

variable {document : Document} {id parent child old new : NodeId}

/-! ### Single links -/

/-- Changes the list of children of a node. -/
def mapChildren (document : Document) (id : NodeId)
    (change : List NodeId → List NodeId) : Document :=
  document.modifyNode id fun node =>
    { node with children := change node.children }

/-- Changes the parent of a node. -/
def setParent (document : Document) (id : NodeId) (parent : Option NodeId) :
    Document :=
  document.modifyNode id fun node => { node with parent := parent }

theorem data?_mapChildren (change : List NodeId → List NodeId) (other : NodeId) :
    (document.mapChildren id change).data? other = document.data? other := by
  rw [mapChildren, data?_modifyNode]
  exact fun _ => rfl

theorem data?_setParent (above : Option NodeId) (other : NodeId) :
    (document.setParent id above).data? other = document.data? other := by
  rw [setParent, data?_modifyNode]
  exact fun _ => rfl

theorem children_setParent (above : Option NodeId) (other : NodeId) :
    (document.setParent id above).children other = document.children other := by
  unfold children setParent
  rw [node?_modifyNode]
  split
  · cases document.node? other <;> rfl
  · rfl

theorem parent?_mapChildren (change : List NodeId → List NodeId)
    (other : NodeId) :
    (document.mapChildren id change).parent? other = document.parent? other := by
  unfold parent? mapChildren
  rw [node?_modifyNode]
  split
  · cases document.node? other <;> rfl
  · rfl

theorem nodeCount_mapChildren (change : List NodeId → List NodeId) :
    (document.mapChildren id change).nodeCount = document.nodeCount :=
  nodeCount_modifyNode _

theorem nodeCount_setParent (above : Option NodeId) :
    (document.setParent id above).nodeCount = document.nodeCount :=
  nodeCount_modifyNode _

theorem children_mapChildren (inside : id < document.nodeCount)
    (change : List NodeId → List NodeId) (other : NodeId) :
    (document.mapChildren id change).children other =
      if other = id then change (document.children other)
      else document.children other := by
  unfold children mapChildren
  rw [node?_modifyNode]
  by_cases same : id = other
  · subst other
    rw [if_pos rfl, if_pos rfl]
    cases present : document.node? id with
    | none => exact absurd inside (Nat.not_lt.mpr (node?_eq_none_iff.mp present))
    | some node => rfl
  · rw [if_neg same, if_neg (Ne.symm same)]

theorem parent?_setParent (inside : id < document.nodeCount)
    (above : Option NodeId) (other : NodeId) :
    (document.setParent id above).parent? other =
      if other = id then above else document.parent? other := by
  unfold parent? setParent
  rw [node?_modifyNode]
  by_cases same : id = other
  · subst other
    rw [if_pos rfl, if_pos rfl]
    cases present : document.node? id with
    | none => exact absurd inside (Nat.not_lt.mpr (node?_eq_none_iff.mp present))
    | some node => rfl
  · rw [if_neg same, if_neg (Ne.symm same)]

/-! ### Putting a node below another one -/

private theorem linkLast_eq (parent child : NodeId) :
    document.linkLast parent child =
      (document.mapChildren parent (· ++ [child])).setParent child
        (some parent) := rfl

theorem data?_linkLast (other : NodeId) :
    (document.linkLast parent child).data? other = document.data? other := by
  rw [linkLast_eq, data?_setParent, data?_mapChildren]

theorem children_linkLast (inside : parent < document.nodeCount)
    (child other : NodeId) :
    (document.linkLast parent child).children other =
      if other = parent then document.children other ++ [child]
      else document.children other := by
  rw [linkLast_eq, children_setParent, children_mapChildren inside]

theorem parent?_linkLast (inside : child < document.nodeCount)
    (parent other : NodeId) :
    (document.linkLast parent child).parent? other =
      if other = child then some parent else document.parent? other := by
  rw [linkLast_eq, parent?_setParent (by rwa [nodeCount_mapChildren]),
    parent?_mapChildren]

/-- A node that hangs nowhere becomes the last child of another one. -/
theorem appendChild_eq (free : document.parent? child = none)
    (allowed : document.appendRefusal? parent child = none) :
    document.appendChild parent child =
      (.ok (), document.linkLast parent child) := by
  rw [appendChild, allowed, detach, free]

/-- The document with `new` in the place of `old`, which hangs nowhere. -/
def exchanged (document : Document) (parent old new : NodeId) : Document :=
  ((document.mapChildren parent (·.replace old new)).setParent old
    none).setParent new (some parent)

theorem data?_exchanged (other : NodeId) :
    (document.exchanged parent old new).data? other = document.data? other := by
  rw [exchanged, data?_setParent, data?_setParent, data?_mapChildren]

theorem children_exchanged (inside : parent < document.nodeCount)
    (old new other : NodeId) :
    (document.exchanged parent old new).children other =
      if other = parent then (document.children other).replace old new
      else document.children other := by
  rw [exchanged, children_setParent, children_setParent,
    children_mapChildren inside]

theorem parent?_exchanged (oldInside : old < document.nodeCount)
    (newInside : new < document.nodeCount) (parent other : NodeId) :
    (document.exchanged parent old new).parent? other =
      if other = new then some parent
      else if other = old then none else document.parent? other := by
  rw [exchanged, parent?_setParent, parent?_setParent, parent?_mapChildren]
  · rwa [nodeCount_mapChildren]
  · rwa [nodeCount_setParent, nodeCount_mapChildren]

/-- A node that hangs nowhere takes the place of another one. -/
theorem replaceChild_eq (hangs : document.parent? old = some parent)
    (different : old ≠ new) (free : document.parent? new = none)
    (allowed : document.replaceRefusal? parent new = none) :
    document.replaceChild old new =
      (.ok (), document.exchanged parent old new) := by
  simp only [replaceChild, hangs, if_neg different, allowed, detach, free]
  rfl

/-! ### Cycles -/

/-- One new link to a node that does not lie below the linked one closes no
cycle. -/
theorem acyclic_of_link {after : Document}
    (acyclic : ∀ id, ¬Relation.TransGen document.HangsUnder id id)
    (links : ∀ below above, after.HangsUnder below above →
      document.HangsUnder below above ∨ (below = child ∧ above = parent))
    (apart : ¬document.InSubtree parent child) (id : NodeId) :
    ¬Relation.TransGen after.HangsUnder id id := by
  have old : ∀ below above, Relation.TransGen after.HangsUnder below above →
      Relation.TransGen document.HangsUnder below above ∨
        (document.InSubtree below child ∧ document.InSubtree parent above) := by
    intro below above chain
    induction chain with
    | single hangs =>
        rcases links _ _ hangs with before | ⟨rfl, rfl⟩
        · exact Or.inl (.single before)
        · exact Or.inr ⟨.refl, .refl⟩
    | tail _ hangs induction =>
        rcases links _ _ hangs with before | ⟨rfl, rfl⟩
        · rcases induction with chain | ⟨low, high⟩
          · exact Or.inl (.tail chain before)
          · exact Or.inr ⟨low, .tail high before⟩
        · rcases induction with chain | ⟨_, high⟩
          · exact Or.inr ⟨chain.to_reflTransGen, .refl⟩
          · exact absurd high apart
  intro cycle
  rcases old id id cycle with chain | ⟨low, high⟩
  · exact acyclic id chain
  · exact apart (high.trans low)

namespace WellFormed

/-! ### Detaching -/

private theorem detach_eq (hangs : document.parent? id = some parent) :
    document.detach id =
      (document.mapChildren parent (·.erase id)).setParent id none := by
  rw [Document.detach, hangs]
  rfl

theorem children_detach (wellFormed : document.WellFormed)
    (hangs : document.parent? id = some parent) (other : NodeId) :
    (document.detach id).children other =
      if other = parent then (document.children other).erase id
      else document.children other := by
  rw [detach_eq hangs, children_setParent,
    children_mapChildren (wellFormed.parent_lt hangs)]

theorem parent?_detach (hangs : document.parent? id = some parent)
    (other : NodeId) :
    (document.detach id).parent? other =
      if other = id then none else document.parent? other := by
  have inside : id <
      (document.mapChildren parent (·.erase id)).nodeCount := by
    rw [nodeCount_mapChildren]
    exact lt_of_parent?_eq_some hangs
  rw [detach_eq hangs, parent?_setParent inside, parent?_mapChildren]

theorem detach (wellFormed : document.WellFormed) (id : NodeId) :
    (document.detach id).WellFormed := by
  cases hangs : document.parent? id with
  | none =>
      rw [Document.detach, hangs]
      exact wellFormed
  | some parent =>
      have fewer : ∀ below above, (document.detach id).HangsUnder below above →
          document.HangsUnder below above := by
        intro below above later
        rw [HangsUnder, parent?_detach hangs] at later
        split at later
        · contradiction
        · exact later
      constructor
      · intro above child
        rw [wellFormed.children_detach hangs, parent?_detach hangs]
        by_cases atParent : above = parent
        · rw [if_pos atParent, (wellFormed.nodup above).mem_erase_iff,
            wellFormed.mem_children]
          split
          next same => simp [same]
          next different => simp [different]
        · rw [if_neg atParent, wellFormed.mem_children]
          split
          next same =>
            rw [same, hangs]
            simp [Ne.symm atParent]
          next => rfl
      · intro above
        rw [wellFormed.children_detach hangs]
        split
        · exact (wellFormed.nodup above).erase id
        · exact wellFormed.nodup above
      · intro node chain
        exact wellFormed.acyclic node (Relation.TransGen.mono fewer _ _ chain)
      · intro node data present leaf
        rw [data?_detach] at present
        have childless := wellFormed.childless node data present leaf
        rw [wellFormed.children_detach hangs, childless]
        split <;> rfl

theorem parent?_detach_self (id : NodeId) :
    (document.detach id).parent? id = none := by
  cases hangs : document.parent? id with
  | none =>
      rw [Document.detach, hangs]
      exact hangs
  | some parent => rw [parent?_detach hangs, if_pos rfl]

theorem parent?_detach_of_ne {other : NodeId} (different : other ≠ id) :
    (document.detach id).parent? other = document.parent? other := by
  cases hangs : document.parent? id with
  | none => rw [Document.detach, hangs]
  | some parent => rw [parent?_detach hangs, if_neg different]

/-- Detaching a node puts nothing below another node. -/
theorem inSubtree_of_detach {other top : NodeId}
    (below : (document.detach id).InSubtree other top) :
    document.InSubtree other top := by
  cases hangs : document.parent? id with
  | none =>
      rw [Document.detach, hangs] at below
      exact below
  | some parent =>
      refine Relation.ReflTransGen.mono ?_ _ _ below
      intro low high later
      rw [HangsUnder, parent?_detach hangs] at later
      split at later
      · contradiction
      · exact later

theorem nodeCount_detach (id : NodeId) :
    (document.detach id).nodeCount = document.nodeCount := by
  unfold Document.detach
  split
  · rfl
  · rw [nodeCount_modifyNode, nodeCount_modifyNode]

/-! ### Appending -/

theorem linkLast (wellFormed : document.WellFormed)
    (holds : (document.data? parent).any NodeData.canHoldChildren = true)
    (inside : child < document.nodeCount)
    (free : document.parent? child = none)
    (apart : ¬document.InSubtree parent child) :
    (document.linkLast parent child).WellFormed := by
  obtain ⟨parentData, present, canHold⟩ := (Option.any_eq_true _ _).mp holds
  have parentInside : parent < document.nodeCount := lt_of_data?_eq_some present
  have content : ∀ other, (document.linkLast parent child).children other =
      if other = parent then document.children other ++ [child]
      else document.children other :=
    children_linkLast parentInside child
  have above : ∀ other, (document.linkLast parent child).parent? other =
      if other = child then some parent else document.parent? other :=
    parent?_linkLast inside parent
  have absent : ∀ other, child ∉ document.children other := by
    intro other member
    rw [wellFormed.mem_children, free] at member
    contradiction
  constructor
  · intro node other
    rw [content, above]
    by_cases isChild : other = child
    · subst isChild
      rw [if_pos rfl]
      split
      next atParent => simp [atParent]
      next elsewhere =>
        constructor
        · exact fun member => absurd member (absent node)
        · exact fun same => absurd (Option.some.inj same).symm elsewhere
    · rw [if_neg isChild, ← wellFormed.mem_children]
      split
      · simp [isChild]
      · rfl
  · intro node
    rw [content]
    split
    · rw [List.nodup_append]
      refine ⟨wellFormed.nodup node, List.nodup_singleton _, ?_⟩
      rintro other member _ new rfl
      rw [List.mem_singleton.mp new] at member
      exact absent node member
    · exact wellFormed.nodup node
  · apply acyclic_of_link wellFormed.acyclic _ apart
    intro low high hangs
    rw [HangsUnder, above] at hangs
    split at hangs
    next isChild => exact Or.inr ⟨isChild, (Option.some.inj hangs).symm⟩
    next => exact Or.inl hangs
  · intro node data found leaf
    rw [data?_linkLast] at found
    rw [content]
    split
    next atParent =>
      rw [atParent, present] at found
      cases found
      rw [canHold] at leaf
      contradiction
    next => exact wellFormed.childless node data found leaf

theorem facts_of_allowed (wellFormed : document.WellFormed)
    (allowed : document.appendRefusal? parent child = none) :
    (document.data? parent).any NodeData.canHoldChildren = true ∧
      child < document.nodeCount ∧ ¬document.InSubtree parent child := by
  unfold appendRefusal? at allowed
  split at allowed
  · contradiction
  next parentData _ present =>
    split at allowed
    · contradiction
    next canHold =>
      split at allowed
      · contradiction
      next kind isChild =>
        split at allowed
        · contradiction
        split at allowed
        · contradiction
        next apart =>
          obtain ⟨data, found, _⟩ := Option.map_eq_some_iff.mp isChild
          rw [wellFormed.isInclusiveAncestor_iff] at apart
          refine ⟨?_, lt_of_data?_eq_some found, apart⟩
          rw [present, Option.any_some]
          simpa using canHold

theorem appendChild (wellFormed : document.WellFormed)
    (parent child : NodeId) :
    (document.appendChild parent child).2.WellFormed := by
  unfold Document.appendChild
  split
  · exact wellFormed
  next allowed =>
    obtain ⟨holds, inside, apart⟩ := wellFormed.facts_of_allowed allowed
    apply (wellFormed.detach child).linkLast
    · rw [data?_detach]
      exact holds
    · rw [nodeCount_detach]
      exact inside
    · exact parent?_detach_self child
    · exact fun below => apart (inSubtree_of_detach below)

theorem appendNew (wellFormed : document.WellFormed) (parent : NodeId)
    (data : NodeData) : (document.appendNew parent data).2.WellFormed :=
  (wellFormed.create data).appendChild parent document.nodeCount

theorem appendText (wellFormed : document.WellFormed) (parent : NodeId)
    (text : String) : (document.appendText parent text).2.WellFormed := by
  unfold Document.appendText
  split
  · exact wellFormed
  · split
    next last existing found =>
      obtain ⟨child, _, same⟩ := Option.map_eq_some_iff.mp found
      obtain ⟨rfl, payload⟩ := Prod.mk.inj same
      exact wellFormed.setData_text payload _
    next => exact wellFormed.appendNew parent (.text text)

/-! ### Replacing -/

theorem replace_middle {before after : List NodeId}
    (absent : old ∉ before) :
    (before ++ old :: after).replace old new = before ++ new :: after := by
  induction before with
  | nil => simp
  | cons entry before induction =>
      rw [List.mem_cons, not_or] at absent
      have different : (old == entry) = false := beq_eq_false_iff_ne.mpr absent.1
      rw [List.cons_append, List.replace_cons, different]
      exact congrArg _ (induction absent.2)

/-- A node without a parent takes the place of another one. -/
private theorem replace (wellFormed : document.WellFormed)
    (hangs : document.parent? old = some parent) (different : old ≠ new)
    (inside : new < document.nodeCount) (free : document.parent? new = none)
    (apart : ¬document.InSubtree parent new) :
    (document.exchanged parent old new).WellFormed := by
  generalize isAfter : document.exchanged parent old new = after
  have content : ∀ other, after.children other =
      if other = parent then (document.children other).replace old new
      else document.children other := by
    intro other
    rw [← isAfter, children_exchanged (wellFormed.parent_lt hangs)]
  have above : ∀ other, after.parent? other =
      if other = new then some parent
      else if other = old then none else document.parent? other := by
    intro other
    rw [← isAfter, parent?_exchanged (lt_of_parent?_eq_some hangs) inside]
  have absent : ∀ other, new ∉ document.children other := by
    intro other member
    rw [wellFormed.mem_children, free] at member
    contradiction
  obtain ⟨before, behind, split⟩ :=
    List.append_of_mem ((wellFormed.mem_children parent old).mpr hangs)
  have distinct := wellFormed.nodup parent
  rw [split, List.nodup_middle, List.nodup_cons] at distinct
  have replaced : (document.children parent).replace old new =
      before ++ new :: behind := by
    rw [split]
    exact replace_middle (wellFormed.not_mem_before split)
  constructor
  · intro node other
    rw [content, above]
    by_cases atParent : node = parent
    · subst atParent
      rw [if_pos rfl, replaced]
      have before := wellFormed.mem_children node other
      rw [split] at before
      by_cases isNew : other = new
      · simp [isNew]
      · by_cases isOld : other = old
        · subst isOld
          simpa [isNew] using distinct.1
        · simpa [isNew, isOld] using before
    · rw [if_neg atParent]
      by_cases isNew : other = new
      · subst isNew
        simp [absent node, Ne.symm atParent]
      · rw [if_neg isNew, wellFormed.mem_children]
        split
        next isOld =>
          subst isOld
          simp [hangs, Ne.symm atParent]
        next => rfl
  · intro node
    rw [content]
    split
    next atParent =>
      rw [atParent, replaced, List.nodup_middle, List.nodup_cons]
      refine ⟨?_, distinct.2⟩
      intro member
      apply absent parent
      rw [split]
      simp only [List.mem_append, List.mem_cons] at member ⊢
      rcases member with early | late
      · exact Or.inl early
      · exact Or.inr (Or.inr late)
    next => exact wellFormed.nodup node
  · apply acyclic_of_link wellFormed.acyclic _ apart
    intro low high later
    rw [HangsUnder, above] at later
    split at later
    next isNew => exact Or.inr ⟨isNew, (Option.some.inj later).symm⟩
    next =>
      split at later
      · contradiction
      · exact Or.inl later
  · intro node data found leaf
    rw [← isAfter, data?_exchanged] at found
    have childless := wellFormed.childless node data found leaf
    rw [content, childless]
    split <;> rfl

theorem replaceChild (wellFormed : document.WellFormed) (old new : NodeId) :
    (document.replaceChild old new).2.WellFormed := by
  unfold Document.replaceChild
  cases hangs : document.parent? old with
  | none => exact wellFormed
  | some parent =>
      simp only
      split
      · exact wellFormed
      next different =>
        cases allowed : document.replaceRefusal? parent new with
        | some refusal => exact wellFormed
        | none =>
            rw [replaceRefusal?, ite_eq_right_iff] at allowed
            have fits : ¬((!document.contains new ||
                document.isInclusiveAncestor new parent) = true) := by
              intro refused
              cases allowed refused
            simp only [Bool.or_eq_true, Bool.not_eq_true', not_or,
              Bool.not_eq_false] at fits
            have stillHangs : (document.detach new).parent? old =
                some parent := by
              rw [parent?_detach_of_ne different, hangs]
            apply (wellFormed.detach new).replace stillHangs different
            · rw [nodeCount_detach]
              exact contains_iff.mp fits.1
            · exact parent?_detach_self new
            · intro below
              exact fits.2 ((wellFormed.isInclusiveAncestor_iff new parent).mpr
                (inSubtree_of_detach below))

end WellFormed

end MarkupHarden.Dom.Document
