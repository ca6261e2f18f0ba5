import MarkupHarden.Proofs.Dom.Linked
import MarkupHarden.Proofs.Dom.Relinking

/-!
# Link surgery

A node is taken out of a list and put into one by rewriting the links around
its place.  `exists_relink?` says which links are rewritten, and `Lacks` how the
links of two documents differ when all that they differ in is one entry of one
list.  The two agree, so that the links of the one document become those of the
other.
-/

namespace MarkupHarden.Dom

/-! ### Rewritten links -/

namespace LinkTable

variable {table : LinkTable} {id parent child : NodeId}
  {left right : Option NodeId}

theorem node?_create (data : NodeData) (other : NodeId) :
    (table.create data).2.node? other =
      if other = table.nodeCount then some { data } else table.node? other :=
  Array.getElem?_push

theorem exists_rewriteNode? (inside : id < table.nodeCount)
    (rewrite : LinkedNode → LinkedNode) :
    ∃ later, table.rewriteNode? id rewrite = some later ∧
      later.nodeCount = table.nodeCount ∧
      ∀ other, later.node? other =
        if id = other then (table.node? other).map rewrite
        else table.node? other := by
  refine ⟨{ nodes := table.nodes.modify id rewrite }, if_pos inside, ?_, ?_⟩
  · exact Array.size_modify
  · intro other
    exact Array.getElem?_modify

theorem exists_leadForward? (parentInside : parent < table.nodeCount)
    (leftInside : ∀ id, left = some id → id < table.nodeCount)
    (target : Option NodeId) :
    ∃ later, table.leadForward? parent left target = some later ∧
      later.nodeCount = table.nodeCount ∧
      ∀ id, later.node? id = (table.node? id).map fun node =>
        { node with
          firstChild :=
            if left = none ∧ id = parent then target else node.firstChild
          nextSibling := if left = some id then target else node.nextSibling } := by
  cases left with
  | none =>
      obtain ⟨later, rewritten, count, nodes⟩ := exists_rewriteNode?
        parentInside fun node => { node with firstChild := target }
      refine ⟨later, rewritten, count, ?_⟩
      intro id
      rw [nodes]
      by_cases same : parent = id
      · simp [same]
      · simp [same, Ne.symm same]
  | some left =>
      obtain ⟨later, rewritten, count, nodes⟩ := exists_rewriteNode?
        (leftInside left rfl) fun node => { node with nextSibling := target }
      refine ⟨later, rewritten, count, ?_⟩
      intro id
      rw [nodes]
      by_cases same : left = id
      · simp [same]
      · simp [same]

theorem exists_leadBackward? (parentInside : parent < table.nodeCount)
    (rightInside : ∀ id, right = some id → id < table.nodeCount)
    (target : Option NodeId) :
    ∃ later, table.leadBackward? parent right target = some later ∧
      later.nodeCount = table.nodeCount ∧
      ∀ id, later.node? id = (table.node? id).map fun node =>
        { node with
          lastChild :=
            if right = none ∧ id = parent then target else node.lastChild
          previousSibling :=
            if right = some id then target else node.previousSibling } := by
  cases right with
  | none =>
      obtain ⟨later, rewritten, count, nodes⟩ := exists_rewriteNode?
        parentInside fun node => { node with lastChild := target }
      refine ⟨later, rewritten, count, ?_⟩
      intro id
      rw [nodes]
      by_cases same : parent = id
      · simp [same]
      · simp [same, Ne.symm same]
  | some right =>
      obtain ⟨later, rewritten, count, nodes⟩ := exists_rewriteNode?
        (rightInside right rfl) fun node =>
          { node with previousSibling := target }
      refine ⟨later, rewritten, count, ?_⟩
      intro id
      rw [nodes]
      by_cases same : right = id
      · simp [same]
      · simp [same]

/-- What becomes of a node when the links on both sides of a place below
`parent` are led to new targets and `child` is given a place of its own. -/
def relinked (parent child : NodeId)
    (left right forward backward above previous next : Option NodeId)
    (id : NodeId) (node : LinkedNode) : LinkedNode where
  data := node.data
  parent := if id = child then above else node.parent
  firstChild :=
    if left = none ∧ id = parent then forward else node.firstChild
  lastChild := if right = none ∧ id = parent then backward else node.lastChild
  previousSibling :=
    if id = child then previous
    else if right = some id then backward else node.previousSibling
  nextSibling :=
    if id = child then next
    else if left = some id then forward else node.nextSibling

theorem exists_relink? (parentInside : parent < table.nodeCount)
    (childInside : child < table.nodeCount)
    (leftInside : ∀ id, left = some id → id < table.nodeCount)
    (rightInside : ∀ id, right = some id → id < table.nodeCount)
    (forward backward above previous next : Option NodeId) :
    ∃ later, (do
        let table ← table.leadForward? parent left forward
        let table ← table.leadBackward? parent right backward
        table.setPlace? child above previous next) = some later ∧
      ∀ id, later.node? id = (table.node? id).map
        (relinked parent child left right forward backward above previous next
          id) := by
  obtain ⟨first, isFirst, firstCount, firstNodes⟩ :=
    exists_leadForward? parentInside leftInside forward
  obtain ⟨second, isSecond, secondCount, secondNodes⟩ :=
    first.exists_leadBackward? (firstCount ▸ parentInside)
      (firstCount ▸ rightInside) backward
  obtain ⟨later, isLater, _, nodes⟩ :=
    second.exists_rewriteNode? (secondCount ▸ firstCount ▸ childInside)
      fun node => { node with
        parent := above, previousSibling := previous, nextSibling := next }
  refine ⟨later, ?_, ?_⟩
  · rw [isFirst, Option.bind_eq_bind, Option.bind_some, isSecond]
    exact isLater
  · intro id
    rw [nodes, secondNodes, firstNodes]
    cases table.node? id with
    | none => exact ite_self none
    | some node =>
        by_cases same : child = id
        · simp [relinked, same]
        · simp [relinked, same, Ne.symm same]

end LinkTable

/-! ### One entry more or less -/

namespace Document

variable {document full : Document} {id parent : NodeId}
  {before after : List NodeId}

/-- Behind the last entry before a place stands what follows the place. -/
theorem entryAfter_of_remove {other : NodeId}
    (distinct : (before ++ id :: after).Nodup) (different : other ≠ id) :
    entryAfter other (before ++ after) =
      if before.getLast? = some other then after.head?
      else entryAfter other (before ++ id :: after) := by
  -- The last entry of `before` needs a case of its own: only behind it does the
  -- list without `id` go on differently.
  induction before with
  | nil =>
      rw [if_neg (by simp)]
      simp only [List.nil_append, entryAfter, if_neg (Ne.symm different)]
  | cons entry before induction =>
      obtain ⟨fresh, distinct⟩ := List.nodup_cons.mp distinct
      simp only [List.cons_append, entryAfter]
      cases before with
      | nil =>
          by_cases same : entry = other
          · simp [same]
          · simpa [same] using induction distinct
      | cons second before =>
          rw [List.getLast?_cons_cons]
          by_cases same : entry = other
          · subst same
            have notLast : (second :: before).getLast? ≠ some entry := by
              intro last
              exact fresh (List.mem_append_left _ (List.mem_of_getLast? last))
            rw [if_neg notLast]
            simp
          · simpa only [if_neg same] using induction distinct

/-- `document` is `full` without the entry `id`, which stands between `before`
and `after` below `parent` in `full`. -/
structure Lacks (document full : Document) (parent : NodeId)
    (before : List NodeId) (id : NodeId) (after : List NodeId) : Prop where
  wellFormed : full.WellFormed
  data? : document.data? = full.data?
  parent? : ∀ other, document.parent? other =
    if other = id then none else full.parent? other
  holding : full.children parent = before ++ id :: after
  lacking : document.children parent = before ++ after
  elsewhere : ∀ other, other ≠ parent →
    document.children other = full.children other

namespace Lacks

variable (lacks : document.Lacks full parent before id after)

include lacks

theorem hangs : full.parent? id = some parent :=
  (lacks.wellFormed.mem_children parent id).mp (by simp [lacks.holding])

theorem distinct : (before ++ id :: after).Nodup :=
  lacks.holding ▸ lacks.wellFormed.nodup parent

theorem parent?_of_mem {other : NodeId} (member : other ∈ before ++ after) :
    full.parent? other = some parent := by
  apply (lacks.wellFormed.mem_children parent other).mp
  rw [lacks.holding]
  exact List.Sublist.mem member
    (List.Sublist.append_left (List.sublist_cons_self id after) before)

/-- The list of children read in one direction, in which `early` comes before
`id` and `late` behind it. -/
private theorem entryAfter (turn : List NodeId → List NodeId)
    (early late : List NodeId)
    (holding : turn (full.children parent) = early ++ id :: late)
    (lacking : turn (document.children parent) = early ++ late)
    (distinct : (early ++ id :: late).Nodup)
    (below : ∀ other ∈ early, full.parent? other = some parent)
    (other : NodeId) :
    ((document.parent? other).bind fun top =>
        Document.entryAfter other (turn (document.children top))) =
      if other = id then none
      else if early.getLast? = some other then late.head?
      else (full.parent? other).bind fun top =>
        Document.entryAfter other (turn (full.children top)) := by
  rw [lacks.parent?]
  split
  next => rfl
  next different =>
    by_cases hangs : full.parent? other = some parent
    · rw [hangs, Option.bind_some, Option.bind_some, lacking, holding]
      exact entryAfter_of_remove distinct different
    · have notLast : early.getLast? ≠ some other := fun last =>
        hangs (below other (List.mem_of_getLast? last))
      rw [if_neg notLast]
      cases above : full.parent? other with
      | none => rfl
      | some top =>
          have apart : top ≠ parent := by
            rintro rfl
            exact hangs above
          rw [Option.bind_some, Option.bind_some, lacks.elsewhere top apart]

/-! #### Links without the entry -/

theorem nextSibling? (other : NodeId) :
    document.nextSibling? other =
      if other = id then none
      else if before.getLast? = some other then after.head?
      else full.nextSibling? other := by
  refine lacks.entryAfter (fun list => list) before after lacks.holding
    lacks.lacking lacks.distinct ?_ other
  exact fun early member =>
    lacks.parent?_of_mem (List.mem_append_left _ member)

theorem previousSibling? (other : NodeId) :
    document.previousSibling? other =
      if other = id then none
      else if after.head? = some other then before.getLast?
      else full.previousSibling? other := by
  have turned : (before ++ id :: after).reverse =
      after.reverse ++ id :: before.reverse := by simp
  have read := lacks.entryAfter List.reverse after.reverse before.reverse
    (by rw [lacks.holding, turned])
    (by rw [lacks.lacking, List.reverse_append])
    (turned ▸ List.nodup_reverse.mpr lacks.distinct)
    (fun late member => lacks.parent?_of_mem
      (List.mem_append_right _ (List.mem_reverse.mp member))) other
  rw [List.getLast?_reverse, List.head?_reverse] at read
  exact read

theorem firstChild? (other : NodeId) :
    document.firstChild? other =
      if before.getLast? = none ∧ other = parent then after.head?
      else full.firstChild? other := by
  unfold Document.firstChild?
  by_cases same : other = parent
  · subst same
    rw [lacks.lacking, lacks.holding]
    cases before with
    | nil => simp
    | cons entry before => simp
  · rw [if_neg (fun both => same both.2), lacks.elsewhere other same]

theorem lastChild? (other : NodeId) :
    document.lastChild? other =
      if after.head? = none ∧ other = parent then before.getLast?
      else full.lastChild? other := by
  unfold Document.lastChild?
  by_cases same : other = parent
  · subst same
    rw [lacks.lacking, lacks.holding]
    cases after with
    | nil => simp
    | cons entry after => simp [List.getLast?_append]
  · rw [if_neg (fun both => same both.2), lacks.elsewhere other same]

/-! #### Links with the entry -/

theorem full_parent? (other : NodeId) :
    full.parent? other =
      if other = id then some parent else document.parent? other := by
  split
  next same => rw [same, lacks.hangs]
  next different => rw [lacks.parent?, if_neg different]

theorem full_nextSibling? (other : NodeId) :
    full.nextSibling? other =
      if other = id then after.head?
      else if before.getLast? = some other then some id
      else document.nextSibling? other := by
  split
  next same => rw [same, lacks.wellFormed.nextSibling?_eq lacks.holding]
  next different =>
    split
    next last =>
      obtain ⟨init, rfl⟩ := List.getLast?_eq_some_iff.mp last
      have split : full.children parent = init ++ other :: id :: after := by
        rw [lacks.holding, List.append_assoc]
        rfl
      rw [lacks.wellFormed.nextSibling?_eq split]
      rfl
    next notLast => rw [lacks.nextSibling?, if_neg different, if_neg notLast]

theorem full_previousSibling? (other : NodeId) :
    full.previousSibling? other =
      if other = id then before.getLast?
      else if after.head? = some other then some id
      else document.previousSibling? other := by
  split
  next same => rw [same, lacks.wellFormed.previousSibling?_eq lacks.holding]
  next different =>
    split
    next first =>
      obtain ⟨rest, rfl⟩ := List.head?_eq_some_iff.mp first
      have split : full.children parent =
          (before ++ [id]) ++ other :: rest := by
        rw [lacks.holding, List.append_assoc]
        rfl
      rw [lacks.wellFormed.previousSibling?_eq split, List.getLast?_concat]
    next notFirst =>
      rw [lacks.previousSibling?, if_neg different, if_neg notFirst]

theorem full_firstChild? (other : NodeId) :
    full.firstChild? other =
      if before.getLast? = none ∧ other = parent then some id
      else document.firstChild? other := by
  split
  next only =>
    obtain ⟨nothing, rfl⟩ := only
    rw [Document.firstChild?, lacks.holding,
      List.getLast?_eq_none_iff.mp nothing]
    rfl
  next other => rw [lacks.firstChild?, if_neg other]

theorem full_lastChild? (other : NodeId) :
    full.lastChild? other =
      if after.head? = none ∧ other = parent then some id
      else document.lastChild? other := by
  split
  next only =>
    obtain ⟨nothing, rfl⟩ := only
    rw [Document.lastChild?, lacks.holding, List.head?_eq_none_iff.mp nothing,
      List.getLast?_concat]
  next other => rw [lacks.lastChild?, if_neg other]

end Lacks

/-! ### Taking out and putting in -/

/-- A table whose links were rewritten is the table of a document that is linked
in this way. -/
theorem eq_links_of_relinked {target : Document} {table : LinkTable}
    {child : NodeId}
    {left right forward backward above previous next : Option NodeId}
    (nodes : ∀ id, table.node? id = (document.links.node? id).map
      (LinkTable.relinked parent child left right forward backward above
        previous next id))
    (data? : target.data? = document.data?)
    (parent? : ∀ id, target.parent? id =
      if id = child then above else document.parent? id)
    (firstChild? : ∀ id, target.firstChild? id =
      if left = none ∧ id = parent then forward else document.firstChild? id)
    (lastChild? : ∀ id, target.lastChild? id =
      if right = none ∧ id = parent then backward else document.lastChild? id)
    (previousSibling? : ∀ id, target.previousSibling? id =
      if id = child then previous
      else if right = some id then backward else document.previousSibling? id)
    (nextSibling? : ∀ id, target.nextSibling? id =
      if id = child then next
      else if left = some id then forward else document.nextSibling? id) :
    table = target.links := by
  apply LinkTable.eq_of_node?_eq
  intro id
  rw [nodes, node?_links, node?_links, Option.map_map, data?]
  apply Option.map_congr
  intro data _
  simp only [Function.comp_apply, linksAt, parent?, firstChild?, lastChild?,
    previousSibling?, nextSibling?]
  rfl

namespace Lacks

variable (lacks : document.Lacks full parent before id after)

include lacks

theorem inside {other : NodeId} (old : other < full.nodeCount) :
    other < document.links.nodeCount := by
  obtain ⟨data, present⟩ := exists_data_of_lt old
  rw [nodeCount_links]
  exact lt_of_data?_eq_some (congrFun lacks.data? other ▸ present)

theorem lt_of_mem {other : NodeId} (member : other ∈ before ++ after) :
    other < full.nodeCount :=
  lt_of_parent?_eq_some (lacks.parent?_of_mem member)

theorem lt_of_left {other : NodeId} (left : before.getLast? = some other) :
    other < full.nodeCount :=
  lacks.lt_of_mem (List.mem_append_left _ (List.mem_of_getLast? left))

theorem lt_of_right {other : NodeId} (right : after.head? = some other) :
    other < full.nodeCount :=
  lacks.lt_of_mem (List.mem_append_right _ (List.mem_of_head? right))

/-- Taking an entry out of a list. -/
theorem detach?_links : full.links.detach? id = some document.links := by
  have hangs : full.links.parent? id = some parent := by
    rw [parent?_links, lacks.hangs]
  have left : full.links.previousSibling? id = before.getLast? := by
    rw [previousSibling?_links,
      lacks.wellFormed.previousSibling?_eq lacks.holding]
  have right : full.links.nextSibling? id = after.head? := by
    rw [nextSibling?_links, lacks.wellFormed.nextSibling?_eq lacks.holding]
  have count : full.links.nodeCount = full.nodeCount := nodeCount_links
  obtain ⟨later, isLater, nodes⟩ := LinkTable.exists_relink?
    (count ▸ lacks.wellFormed.parent_lt lacks.hangs)
    (count ▸ lt_of_parent?_eq_some lacks.hangs)
    (fun _ left => count ▸ lacks.lt_of_left left)
    (fun _ right => count ▸ lacks.lt_of_right right) after.head? before.getLast?
    none none none
  have same : later = document.links :=
    eq_links_of_relinked nodes lacks.data? lacks.parent? lacks.firstChild?
      lacks.lastChild? lacks.previousSibling? lacks.nextSibling?
  rw [LinkTable.detach?, hangs, left, right]
  exact same ▸ isLater

/-- Putting an entry between two others. -/
theorem insert?_links :
    document.links.insert? parent id before.getLast? after.head? =
      some full.links := by
  obtain ⟨later, isLater, nodes⟩ := LinkTable.exists_relink?
    (lacks.inside (lacks.wellFormed.parent_lt lacks.hangs))
    (lacks.inside (lt_of_parent?_eq_some lacks.hangs))
    (fun _ left => lacks.inside (lacks.lt_of_left left))
    (fun _ right => lacks.inside (lacks.lt_of_right right))
    (some id) (some id) (some parent) before.getLast? after.head?
  have same : later = full.links :=
    eq_links_of_relinked nodes lacks.data?.symm lacks.full_parent?
      lacks.full_firstChild? lacks.full_lastChild? lacks.full_previousSibling?
      lacks.full_nextSibling?
  rw [LinkTable.insert?]
  exact same ▸ isLater

end Lacks

end Document

end MarkupHarden.Dom
