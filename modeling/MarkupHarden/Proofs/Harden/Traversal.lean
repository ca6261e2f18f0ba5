import MarkupHarden.Harden.Engine
import MarkupHarden.Proofs.Dom.Growth
import MarkupHarden.Proofs.Rule.RuleSet

/-!
# What a traversal does

A traversal applies the rules to every element of a subtree once, in document
order, up to the first fault.  `visit_eq_visitAll` replaces the cursor by the
list of nodes at which it stops; what happens along that list is then shown by
induction.
-/

namespace MarkupHarden

open Dom (Cursor Document Element Node NodeData NodeId)

/-! ### The nodes at which a traversal stops -/

namespace Traversal

/-- Visits nodes in the order of a list. -/
def visitAll (rules : RuleSet) (context : Rule.Context) :
    List NodeId → Report → Document → Outcome
  | [], report, document => { document, result := .ok report }
  | id :: ids, report, document =>
      let report := { report with visited := report.visited + 1 }
      match document.element? id with
      | none => visitAll rules context ids report document
      | some element =>
          let applied := rules.apply context element
          let document := document.setData id (.element applied.element)
          match applied.fault with
          | some fault =>
              { document, result := .error fault, events := applied.events }
          | none =>
              let rest :=
                visitAll rules context ids (report.countElement rules)
                  document
              { rest with events := applied.events ++ rest.events }

/-- Whether a traversal stops at a node. -/
def isVisited (document : Document) (id : NodeId) : Bool :=
  (document.kind? id).any visitedKinds.accepts

variable {rules : RuleSet} {context : Rule.Context}

private theorem visit_step_eq {limit : Nat} {cursor after : Cursor}
    {document : Document} {id : NodeId} (report : Report)
    (found : cursor.next document = (some id, after))
    {later : List NodeId}
    (rest : ∀ report changed,
      Document.SameLinks document changed →
      changed.kind? = document.kind? → changed.WellFormed →
        visit rules context limit after report changed =
          visitAll rules context later report changed)
    (wellFormed : document.WellFormed) :
    visit rules context (limit + 1) cursor report document =
      visitAll rules context (id :: later) report document := by
  rw [visit, found, visitAll]
  dsimp only
  cases present : document.element? id with
  | none => exact rest _ document (.refl document) rfl wellFormed
  | some element =>
      have same := rest
        ({ report with visited := report.visited + 1 }.countElement rules)
        (document.setData id (.element (rules.apply context element).element))
        (.setData document id _) (Document.kind?_setData_element present)
        (wellFormed.setData_element _ present)
      dsimp only
      generalize (rules.apply context element).fault = fault
      cases fault with
      | none => simp only [same]
      | some fault => rfl

theorem visit_eq_visitAll (top : NodeId) :
    ∀ limit cursor report document pending,
      document.WellFormed → cursor.top = top → top < document.nodeCount →
      cursor.kinds = visitedKinds → cursor.Leads document pending →
      pending.length ≤ document.nodeCount →
      (pending.filter (isVisited document)).length ≤ limit →
        visit rules context limit cursor report document =
          visitAll rules context (pending.filter (isVisited document)) report
            document := by
  intro limit
  induction limit with
  | zero =>
      intro cursor report document pending _ _ _ _ _ _ enough
      rw [List.eq_nil_of_length_eq_zero (Nat.le_zero.mp enough)]
      rfl
  | succ limit induction =>
      intro cursor report document pending wellFormed atTop inside kinds leads
        short enough
      have stops : cursor.stopsAt document = isVisited document := by
        funext id
        rw [Cursor.stopsAt_eq, kinds]
        rfl
      have advances := Cursor.next_advances wellFormed
        (by rw [atTop]; exact inside) leads short
      rw [Cursor.Advances, stops] at advances
      split at advances
      next done =>
        rw [done, visit]
        cases step : cursor.next document with
        | mk found after =>
            rw [step] at advances
            cases advances
            rfl
      next id others split =>
        obtain ⟨later, found, rfl, fewer, further⟩ := advances
        rw [split] at enough ⊢
        refine visit_step_eq report found ?_ wellFormed
        intro report changed same sameKinds changedWellFormed
        have sameVisited : isVisited changed = isVisited document := by
          funext id
          simp only [isVisited, sameKinds]
        rw [← sameVisited] at enough ⊢
        exact induction _ report changed later changedWellFormed atTop
          (by rw [same.nodeCount]; exact inside) kinds
          (same.cursorLeads further)
          (by rw [same.nodeCount]; exact Nat.le_trans fewer short)
          (Nat.le_of_succ_le_succ enough)

/-- A traversal visits the subtree in document order. -/
theorem traverse_eq_visitAll {document : Document}
    (wellFormed : document.WellFormed) (top : NodeId) :
    document.traverse top rules context =
      visitAll rules context ((document.subtree top).filter (isVisited document))
        {} document := by
  by_cases inside : top < document.nodeCount
  · refine visit_eq_visitAll top _ _ _ _ _ wellFormed rfl inside rfl
      (Cursor.Leads.start document top visitedKinds)
      (wellFormed.length_subtree_le top) ?_
    exact Nat.le_trans (List.length_filter_le _ _)
      (wellFormed.length_subtree_le top)
  · have outside : document.contains top ≠ true := fun found =>
      inside (Document.contains_iff.mp found)
    rw [Document.subtree_of_absent (Nat.le_of_not_lt inside)]
    unfold Document.traverse
    cases document.nodeCount with
    | zero => rfl
    | succ limit =>
        simp [visit, Cursor.next, Cursor.seek, outside, visitAll]

/-! ### What the visits come to -/

/-- Every rule succeeds on every element among the given nodes. -/
def FaultFree (document : Document) (rules : RuleSet) (context : Rule.Context)
    (ids : List NodeId) : Prop :=
  ∀ id ∈ ids, ∀ element, document.element? id = some element →
    RuleSet.AllSucceed context rules.rules element

theorem faultFree_of_builtin (document : Document) (context : Rule.Context)
    (builtin : ∀ rule ∈ rules.rules, rule.isCustom = false)
    (ids : List NodeId) : FaultFree document rules context ids :=
  fun _ _ element _ => RuleSet.allSucceed_of_builtin rules.rules element builtin

/-- The number of elements among the given nodes. -/
def countElements (document : Document) (ids : List NodeId) : Nat :=
  ids.countP fun id => document.kind? id = some .element

theorem kind?_of_element? {document : Document} {id : NodeId}
    {element : Element} (found : document.element? id = some element) :
    document.kind? id = some .element := by
  simp [Document.kind?, Document.element?_eq_some_iff.mp found, NodeData.kind]

theorem kind?_ne_of_not_element {document : Document} {id : NodeId}
    (absent : document.element? id = none) :
    document.kind? id ≠ some .element := by
  intro isElement
  obtain ⟨data, found, kind⟩ := Option.map_eq_some_iff.mp isElement
  cases data <;> simp [Document.element?, found, NodeData.kind] at absent kind

/-- Nodes without an element keep their payload under any change of it. -/
theorem node?_map_mapElement_of_not_element {document : Document}
    {id : NodeId} (absent : document.element? id = none)
    (change : Element → Element) :
    (document.node? id).map (Node.mapElement change) = document.node? id := by
  cases present : document.node? id with
  | none => rfl
  | some node =>
      obtain ⟨data, parent, children⟩ := node
      have payload : document.data? id = some data := by
        simp [Document.data?, present]
      cases data with
      | element old =>
          rw [Document.element?_eq_some_iff.mpr payload] at absent
          contradiction
      | _ => rfl

private theorem faultFree_setData {document : Document} {id : NodeId}
    {data : NodeData} {ids : List NodeId} (absent : id ∉ ids)
    (faultFree : FaultFree document rules context ids) :
    FaultFree (document.setData id data) rules context ids := by
  intro other member element found
  have different : id ≠ other := fun same => absent (same ▸ member)
  rw [Document.element?_setData_of_ne different] at found
  exact faultFree other member element found

private theorem countElements_setData {document : Document} {id : NodeId}
    {element changed : Element} (found : document.element? id = some element)
    (ids : List NodeId) :
    countElements (document.setData id (.element changed)) ids =
      countElements document ids := by
  simp only [countElements, Document.kind?_setData_element found]

/-- The document after the rules have run on the elements of some nodes. -/
def Transformed (document : Document) (change : Element → Element)
    (ids : List NodeId) (after : Document) : Prop :=
  ∀ id, after.node? id =
    if id ∈ ids then (document.node? id).map (Node.mapElement change)
    else document.node? id

theorem Transformed.sameLinks {document after : Document}
    {change : Element → Element} {ids : List NodeId}
    (transformed : Transformed document change ids after) :
    document.SameLinks after := by
  have unchanged : ∀ {α : Type} (read : Node → α),
      (∀ node, read (node.mapElement change) = read node) →
        ∀ id, (after.node? id).map read = (document.node? id).map read := by
    intro α read ignores id
    rw [transformed id]
    split
    · cases document.node? id with
      | none => rfl
      | some node => simp [ignores]
    · rfl
  refine ⟨?_, ?_, ?_⟩
  · have absent : ∀ id, after.nodeCount ≤ id ↔ document.nodeCount ≤ id := by
      intro id
      have same := unchanged Node.parent (fun _ => rfl) id
      rw [← Document.node?_eq_none_iff, ← Document.node?_eq_none_iff]
      cases before : document.node? id <;> cases now : after.node? id <;>
        simp_all
    exact Nat.le_antisymm ((absent _).mpr (Nat.le_refl _))
      ((absent _).mp (Nat.le_refl _))
  · funext id
    rw [Document.children, unchanged _ fun _ => rfl, Document.children]
  · funext id
    have same := congrArg (Option.bind · fun parent => parent)
      (unchanged Node.parent (fun _ => rfl) id)
    simp only [Option.bind_map] at same
    exact same

theorem Transformed.element? {document after : Document}
    {change : Element → Element} {ids : List NodeId}
    (transformed : Transformed document change ids after) {id : NodeId}
    (member : id ∈ ids) :
    after.element? id = (document.element? id).map change := by
  simp only [Document.element?, Document.data?]
  rw [transformed id, if_pos member]
  rcases document.node? id with _ | ⟨data, _, _⟩
  · rfl
  · cases data <;> rfl

theorem Transformed.data?_eq {document after : Document}
    {change : Element → Element} {ids : List NodeId}
    (transformed : Transformed document change ids after) (id : NodeId) :
    after.data? id =
      if id ∈ ids then (document.data? id).map (NodeData.mapElement change)
      else document.data? id := by
  simp only [Document.data?, transformed id]
  split
  · cases document.node? id <;> rfl
  · rfl

theorem Transformed.wellFormed {document after : Document}
    {change : Element → Element} {ids : List NodeId}
    (transformed : Transformed document change ids after)
    (wellFormed : document.WellFormed) : after.WellFormed := by
  refine transformed.sameLinks.wellFormed ?_ wellFormed
  intro id
  rw [transformed.data?_eq]
  split
  · rcases document.data? id with _ | data
    · rfl
    · cases data <;> rfl
  · rfl

theorem Transformed.kind?_eq {document after : Document}
    {change : Element → Element} {ids : List NodeId}
    (transformed : Transformed document change ids after) :
    after.kind? = document.kind? := by
  funext id
  rw [Document.kind?, transformed.data?_eq]
  split
  · rcases present : document.data? id with _ | data
    · rw [Document.kind?, present]
      rfl
    · rw [Document.kind?, present]
      cases data <;> rfl
  · rfl

/-- A change that leaves every element it reaches as it is changes nothing. -/
theorem Transformed.eq_self {document after : Document}
    {change : Element → Element} {ids : List NodeId}
    (transformed : Transformed document change ids after)
    (fixed : ∀ id ∈ ids, ∀ element, document.element? id = some element →
      change element = element) : after = document := by
  apply Document.eq_of_node?_eq
  intro id
  rw [transformed id]
  split
  next member =>
    cases found : document.element? id with
    | none => exact node?_map_mapElement_of_not_element found change
    | some element =>
        obtain ⟨node, present, data⟩ :=
          Option.map_eq_some_iff.mp (Document.element?_eq_some_iff.mp found)
        obtain ⟨_, parent, children⟩ := node
        cases data
        simp [present, Node.mapElement, NodeData.mapElement,
          fixed id member element found]
  next => rfl

private theorem transformed_cons {document after : Document} {id : NodeId}
    {element : Element} {change : Element → Element} {ids : List NodeId}
    (found : document.element? id = some element) (absent : id ∉ ids)
    (rest : Transformed (document.setData id (.element (change element)))
      change ids after) :
    Transformed document change (id :: ids) after := by
  intro other
  rw [rest other, Document.node?_setData_element found]
  by_cases same : id = other
  · subst other
    rw [if_neg absent, if_pos rfl, if_pos List.mem_cons_self]
    obtain ⟨node, present, data⟩ :=
      Option.map_eq_some_iff.mp (Document.element?_eq_some_iff.mp found)
    simp [present, Node.mapElement, NodeData.mapElement, data]
  · simp [same, Ne.symm same]

private theorem transformed_cons_of_not_element {document after : Document}
    {id : NodeId} {change : Element → Element} {ids : List NodeId}
    (absent : document.element? id = none)
    (rest : Transformed document change ids after) :
    Transformed document change (id :: ids) after := by
  intro other
  rw [rest other]
  by_cases same : other = id
  · subst other
    rw [if_pos List.mem_cons_self,
      node?_map_mapElement_of_not_element absent]
    split <;> rfl
  · simp [same]

theorem visitAll_of_faultFree (ids : List NodeId) (report : Report)
    (document : Document) (distinct : ids.Nodup)
    (faultFree : FaultFree document rules context ids) :
    (visitAll rules context ids report document).result =
        .ok
          { visited := report.visited + ids.length
            elements := report.elements + countElements document ids
            ruleApplications := report.ruleApplications +
              countElements document ids * rules.size } ∧
      Transformed document (RuleSet.effect context rules.rules) ids
        (visitAll rules context ids report document).document := by
  induction ids generalizing report document with
  | nil => simp [visitAll, countElements, Transformed]
  | cons id ids induction =>
      obtain ⟨absent, distinct⟩ := List.nodup_cons.mp distinct
      have later : FaultFree document rules context ids := fun other member =>
        faultFree other (List.mem_cons_of_mem _ member)
      rw [visitAll]
      cases found : document.element? id with
      | none =>
          obtain ⟨result, transformed⟩ := induction
            { report with visited := report.visited + 1 } document distinct
            later
          refine ⟨?_, transformed_cons_of_not_element found transformed⟩
          have notElement := kind?_ne_of_not_element found
          have same : countElements document (id :: ids) =
              countElements document ids := by
            simp [countElements, notElement]
          dsimp only
          rw [result, same, List.length_cons, Nat.add_assoc, Nat.add_comm 1]
      | some element =>
          have succeed := RuleSet.applyAll_of_allSucceed rules.rules element
            (faultFree id List.mem_cons_self element found)
          have noFault : (rules.apply context element).fault = none :=
            succeed.1
          have changed : (rules.apply context element).element =
              RuleSet.effect context rules.rules element := succeed.2
          obtain ⟨result, transformed⟩ := induction
            ({ report with visited := report.visited + 1 }.countElement rules)
            (document.setData id
              (.element (RuleSet.effect context rules.rules element)))
            distinct (faultFree_setData absent later)
          simp only [noFault, changed]
          refine ⟨?_, transformed_cons found absent transformed⟩
          have oneMore : countElements document (id :: ids) =
              countElements document ids + 1 := by
            simp [countElements, kind?_of_element? found]
          rw [result, countElements_setData found, oneMore, Report.countElement,
            List.length_cons, Nat.add_mul]
          simp only [Except.ok.injEq, Report.mk.injEq]
          omega

/-- Where a traversal over the given nodes fails, and on which rule. -/
structure FirstFault (document : Document) (rules : RuleSet)
    (context : Rule.Context) (ids : List NodeId) where
  before : List NodeId
  id : NodeId
  after : List NodeId
  element : Element
  ran : List Rule
  rule : Rule
  unrun : List Rule
  fault : Fault
  ids_eq : ids = before ++ id :: after
  before_faultFree : FaultFree document rules context before
  element_eq : document.element? id = some element
  rules_eq : rules.rules = ran ++ rule :: unrun
  ran_succeed : RuleSet.AllSucceed context ran element
  fails :
    (rule.apply context (RuleSet.effect context ran element)).fault =
      some fault

/-- Only the elements before the fault and the one at the fault are changed;
the latter by the rules up to the one that fails. -/
def FirstFault.Leaves {document : Document} {ids : List NodeId}
    (failure : FirstFault document rules context ids) (after : Document) :
    Prop :=
  ∀ id, after.node? id =
    if id ∈ failure.before then
      (document.node? id).map
        (Node.mapElement (RuleSet.effect context rules.rules))
    else if id = failure.id then
      (document.node? id).map
        (Node.mapElement
          (RuleSet.effect context (failure.ran ++ [failure.rule])))
    else document.node? id

private theorem visitAll_append_of_faultFree (before ids : List NodeId)
    (report : Report) (document : Document)
    (distinct : (before ++ ids).Nodup)
    (faultFree : FaultFree document rules context before) :
    ∃ reported, ∃ middle : Document, ∃ events,
      visitAll rules context (before ++ ids) report document =
          { visitAll rules context ids reported middle with
            events := events ++
              (visitAll rules context ids reported middle).events } ∧
        Transformed document (RuleSet.effect context rules.rules) before
          middle := by
  induction before generalizing report document with
  | nil => exact ⟨report, document, [], by simp, by simp [Transformed]⟩
  | cons id before induction =>
      rw [List.cons_append, List.nodup_cons, List.mem_append, not_or]
        at distinct
      obtain ⟨⟨absent, _⟩, distinct⟩ := distinct
      have later : FaultFree document rules context before :=
        fun other member => faultFree other (List.mem_cons_of_mem _ member)
      rw [List.cons_append, visitAll]
      cases found : document.element? id with
      | none =>
          obtain ⟨reported, middle, events, same, transformed⟩ := induction
            { report with visited := report.visited + 1 } document distinct
            later
          exact ⟨reported, middle, events, same,
            transformed_cons_of_not_element found transformed⟩
      | some element =>
          have succeed := RuleSet.applyAll_of_allSucceed rules.rules element
            (faultFree id List.mem_cons_self element found)
          have noFault : (rules.apply context element).fault = none :=
            succeed.1
          have changed : (rules.apply context element).element =
              RuleSet.effect context rules.rules element := succeed.2
          obtain ⟨reported, middle, events, same, transformed⟩ := induction
            ({ report with visited := report.visited + 1 }.countElement rules)
            (document.setData id
              (.element (RuleSet.effect context rules.rules element)))
            distinct (faultFree_setData absent later)
          simp only [noFault, changed]
          refine ⟨reported, middle, (rules.apply context element).events ++
            events, ?_, transformed_cons found absent transformed⟩
          rw [same]
          simp only [List.append_assoc]

theorem visitAll_of_firstFault (ids : List NodeId) (report : Report)
    (document : Document) (distinct : ids.Nodup)
    (failure : FirstFault document rules context ids) :
    (visitAll rules context ids report document).result =
        .error failure.fault ∧
      failure.Leaves (visitAll rules context ids report document).document := by
  obtain ⟨before, id, after, element, ran, rule, unrun, fault, rfl, faultFree,
    found, rulesEq, succeed, fails⟩ := failure
  obtain ⟨reported, middle, events, same, transformed⟩ :=
    visitAll_append_of_faultFree before (id :: after) report document distinct
      faultFree
  have absent : id ∉ before := fun early =>
    List.disjoint_of_nodup_append distinct early List.mem_cons_self
  have untouched : middle.node? id = document.node? id := by
    rw [transformed id, if_neg absent]
  have foundAgain : middle.element? id = some element := by
    rw [← found]
    simp only [Document.element?, Document.data?, untouched]
  have applied := RuleSet.applyAll_of_fault ran rule unrun element succeed fails
  rw [← rulesEq] at applied
  have fault : (rules.apply context element).fault = some fault := applied.1
  have changed : (rules.apply context element).element =
      RuleSet.effect context (ran ++ [rule]) element := applied.2
  rw [same, visitAll]
  simp only [foundAgain, fault, changed, true_and]
  intro other
  rw [Document.node?_setData_element foundAgain, transformed other]
  by_cases atFault : id = other
  · subst other
    obtain ⟨node, present, data⟩ :=
      Option.map_eq_some_iff.mp (Document.element?_eq_some_iff.mp found)
    simp [absent, present, Node.mapElement, NodeData.mapElement, data]
  · simp [atFault, Ne.symm atFault]

/-- Either every rule succeeds everywhere or there is a first fault. -/
theorem faultFree_or_firstFault (document : Document) (rules : RuleSet)
    (context : Rule.Context) (ids : List NodeId) :
    FaultFree document rules context ids ∨
      Nonempty (FirstFault document rules context ids) := by
  induction ids with
  | nil => exact Or.inl fun id member => absurd member List.not_mem_nil
  | cons id ids induction =>
      have here : FaultFree document rules context [id] ∨
          Nonempty (FirstFault document rules context (id :: ids)) := by
        cases found : document.element? id with
        | none =>
            left
            intro other member element present
            rw [List.mem_singleton.mp member, found] at present
            contradiction
        | some element =>
            rcases RuleSet.allSucceed_or_fault context rules.rules element with
              succeed | ⟨ran, rule, unrun, fault, split, succeed, fails⟩
            · left
              intro other member present presentEq
              rw [List.mem_singleton.mp member, found] at presentEq
              cases presentEq
              exact succeed
            · exact Or.inr ⟨⟨[], id, ids, element, ran, rule, unrun, fault,
                rfl, fun _ member => absurd member List.not_mem_nil, found,
                split, succeed, fails⟩⟩
      rcases here with single | failure
      · have extend : ∀ nodes, FaultFree document rules context nodes →
            FaultFree document rules context (id :: nodes) := by
          intro nodes faultFree other member
          rcases List.mem_cons.mp member with rfl | later
          · exact single other (List.mem_singleton.mpr rfl)
          · exact faultFree other later
        rcases induction with faultFree | fails
        · exact Or.inl (extend ids faultFree)
        · obtain ⟨failure⟩ := fails
          have extended : FirstFault document rules context (id :: ids) :=
            { failure with
              before := id :: failure.before
              ids_eq := congrArg (List.cons id) failure.ids_eq
              before_faultFree :=
                extend failure.before failure.before_faultFree }
          exact Or.inr ⟨extended⟩
      · exact Or.inr failure

/-! ### From the nodes visited to the whole subtree -/

theorem element?_of_not_visited {document : Document} {id : NodeId}
    (skipped : isVisited document id = false) :
    document.element? id = none := by
  cases found : document.element? id with
  | none => rfl
  | some element =>
      rw [isVisited, kind?_of_element? found] at skipped
      contradiction

theorem faultFree_filter {document : Document} {ids : List NodeId}
    (faultFree : FaultFree document rules context ids) :
    FaultFree document rules context (ids.filter (isVisited document)) :=
  fun id member => faultFree id (List.mem_of_mem_filter member)

theorem countElements_filter (document : Document) (ids : List NodeId) :
    countElements document (ids.filter (isVisited document)) =
      countElements document ids := by
  rw [countElements, List.countP_filter, countElements]
  refine List.countP_congr fun id _ => ?_
  by_cases isElement : document.kind? id = some .element
  · simp [isVisited, isElement, visitedKinds, Dom.KindSet.accepts,
      Dom.KindSet.union, Dom.KindSet.only]
  · simp [isElement]

theorem transformed_filter {document after : Document}
    {change : Element → Element} {ids : List NodeId}
    (transformed : Transformed document change
      (ids.filter (isVisited document)) after) :
    Transformed document change ids after := by
  intro id
  rw [transformed id]
  cases visited : isVisited document id with
  | true => simp [visited]
  | false =>
      simp only [List.mem_filter, visited, Bool.false_eq_true, and_false,
        node?_map_mapElement_of_not_element
          (element?_of_not_visited visited), ite_self]

/-- The same fault, found among the visited nodes only. -/
def FirstFault.filter {document : Document} {ids : List NodeId}
    (failure : FirstFault document rules context ids) :
    FirstFault document rules context (ids.filter (isVisited document)) :=
  { failure with
    before := failure.before.filter (isVisited document)
    after := failure.after.filter (isVisited document)
    ids_eq := by
      have visited : isVisited document failure.id = true := by
        rw [isVisited, kind?_of_element? failure.element_eq]
        rfl
      have split := congrArg (List.filter (isVisited document)) failure.ids_eq
      rw [List.filter_append, List.filter_cons_of_pos visited] at split
      exact split
    before_faultFree := faultFree_filter failure.before_faultFree }

theorem FirstFault.leaves_of_filter {document after : Document}
    {ids : List NodeId} (failure : FirstFault document rules context ids)
    (leaves : failure.filter.Leaves after) : failure.Leaves after := by
  intro id
  rw [leaves id]
  cases visited : isVisited document id with
  | true =>
      simp only [FirstFault.filter, List.mem_filter, visited, and_true]
      rfl
  | false =>
      have absent := element?_of_not_visited visited
      simp only [FirstFault.filter, List.mem_filter, visited,
        Bool.false_eq_true, and_false,
        node?_map_mapElement_of_not_element absent, ite_self]

/-! ### Traversals are exact -/

/-- The number of elements, texts and comments among the given nodes. -/
def countVisited (document : Document) (ids : List NodeId) : Nat :=
  ids.countP fun id =>
    [some .element, some .text, some .comment].contains (document.kind? id)

theorem Transformed.countElements_eq {document after : Document}
    {change : Element → Element} {ids : List NodeId}
    (transformed : Transformed document change ids after) :
    countElements after = countElements document := by
  funext others
  simp only [countElements, transformed.kind?_eq]

theorem Transformed.countVisited_eq {document after : Document}
    {change : Element → Element} {ids : List NodeId}
    (transformed : Transformed document change ids after) :
    countVisited after = countVisited document := by
  funext others
  simp only [countVisited, transformed.kind?_eq]

private theorem length_filter_isVisited (document : Document)
    (ids : List NodeId) :
    (ids.filter (isVisited document)).length = countVisited document ids := by
  rw [← List.countP_eq_length_filter, countVisited]
  refine List.countP_congr fun id _ => ?_
  unfold isVisited
  rcases document.kind? id with _ | kind
  · decide
  · cases kind <;> decide

private theorem transformed_apply {document after : Document}
    {ids : List NodeId}
    (faultFree : FaultFree document rules context ids)
    (transformed : Transformed document (RuleSet.effect context rules.rules) ids
      after) :
    Transformed document (fun element => (rules.apply context element).element)
      ids after := by
  intro id
  rw [transformed id]
  split
  next member =>
    cases found : document.element? id with
    | none => simp only [node?_map_mapElement_of_not_element found]
    | some element =>
        have applied : (rules.apply context element).element =
            RuleSet.effect context rules.rules element :=
          (RuleSet.applyAll_of_allSucceed rules.rules element
            (faultFree id member element found)).2
        obtain ⟨node, present, data⟩ :=
          Option.map_eq_some_iff.mp (Document.element?_eq_some_iff.mp found)
        simp [present, Node.mapElement, NodeData.mapElement, data, applied]
  next => rfl

end Traversal

namespace Dom.Document

open Traversal

variable {document : Document}

/-- Without faults a traversal counts and changes every element once. -/
theorem WellFormed.traverse_of_faultFree (wellFormed : document.WellFormed)
    {top : NodeId} {rules : RuleSet} {context : Rule.Context}
    (faultFree : FaultFree document rules context (document.subtree top)) :
    (document.traverse top rules context).result =
        .ok
          { visited := countVisited document (document.subtree top)
            elements := countElements document (document.subtree top)
            ruleApplications :=
              countElements document (document.subtree top) * rules.size } ∧
      Transformed document (RuleSet.effect context rules.rules)
        (document.subtree top)
        (document.traverse top rules context).document := by
  have distinct : ((document.subtree top).filter (isVisited document)).Nodup :=
    (wellFormed.nodup_subtree top).filter _
  obtain ⟨result, transformed⟩ := visitAll_of_faultFree _ {} document
    distinct (faultFree_filter faultFree)
  rw [traverse_eq_visitAll wellFormed top]
  refine ⟨?_, transformed_filter transformed⟩
  rw [result, length_filter_isVisited, countElements_filter]
  simp only [Nat.zero_add]

theorem WellFormed.traverse_exact (wellFormed : document.WellFormed)
    (top : NodeId) (rules : RuleSet) (context : Rule.Context) :
    (FaultFree document rules context (document.subtree top) →
      (document.traverse top rules context).result =
          .ok
            { visited := countVisited document (document.subtree top)
              elements := countElements document (document.subtree top)
              ruleApplications :=
                countElements document (document.subtree top) * rules.size } ∧
        Transformed document
          (fun element => (rules.apply context element).element)
          (document.subtree top)
          (document.traverse top rules context).document) ∧
      (∀ failure : FirstFault document rules context (document.subtree top),
        (document.traverse top rules context).result = .error failure.fault ∧
          failure.Leaves (document.traverse top rules context).document) ∧
      (FaultFree document rules context (document.subtree top) ∨
        Nonempty (FirstFault document rules context
          (document.subtree top))) := by
  refine ⟨?_, ?_, faultFree_or_firstFault document rules context _⟩
  · intro faultFree
    obtain ⟨result, transformed⟩ := wellFormed.traverse_of_faultFree faultFree
    exact ⟨result, transformed_apply faultFree transformed⟩
  · intro failure
    have distinct :
        ((document.subtree top).filter (isVisited document)).Nodup :=
      (wellFormed.nodup_subtree top).filter _
    obtain ⟨result, leaves⟩ := visitAll_of_firstFault _ {} document distinct
      failure.filter
    rw [traverse_eq_visitAll wellFormed top]
    exact ⟨result, failure.leaves_of_filter leaves⟩

/-- A rule set that fails on `head`. -/
def refusingHead : RuleSet where
  rules :=
    [.noopener,
      .custom
        { name := "refuseHead"
          apply := fun _ element =>
            if element.isHtml "head" then
              (some (.reported .ruleFailed "head"), element)
            else (none, element) }]

theorem traverse_exact_shell :
    (shell.traverse root .default {}).result =
        .ok { visited := 3, elements := 3, ruleApplications := 18 } ∧
      (shell.traverse root refusingHead {}).result =
        .error (.reported .ruleFailed "head") := by
  constructor
  · exact ((wellFormed_shell.traverse_exact root .default {}).1
      (faultFree_of_builtin shell {} (by decide) _)).1
  · refine ((wellFormed_shell.traverse_exact root refusingHead {}).2.1
      { before := [0, 1]
        id := 2
        after := [3]
        element := .html "head"
        ran := [.noopener]
        rule := refusingHead.rules[1]
        unrun := []
        fault := .reported .ruleFailed "head"
        ids_eq := by decide
        before_faultFree := ?_
        element_eq := by decide
        rules_eq := rfl
        ran_succeed := ⟨rfl, trivial⟩
        fails := by decide }).1
    intro id member element found
    rcases List.mem_pair.mp member with rfl | rfl
    · have absent : shell.element? 0 = none := by decide
      rw [absent] at found
      contradiction
    · have present : shell.element? 1 = some (.html "html") := by decide
      rw [present] at found
      cases found
      exact ⟨rfl, by decide, trivial⟩

end Dom.Document

/-- Without faults a call hands over the tree behind the traversal. -/
theorem Engine.finish_of_faultFree (engine : Engine) {options : Options}
    {working : WorkingTree} (wellFormed : working.document.WellFormed)
    (faultFree :
      Traversal.FaultFree working.document options.rules options.ruleContext
        (working.document.subtree working.root)) :
    (engine.finish options working).value =
      .ok (.ofTree engine.serializer options
        (some { working with
          document := (working.document.traverse working.root options.rules
            options.ruleContext).document })) := by
  obtain ⟨counted, _⟩ := wellFormed.traverse_of_faultFree faultFree
  unfold finish
  simp only [counted]

end MarkupHarden
