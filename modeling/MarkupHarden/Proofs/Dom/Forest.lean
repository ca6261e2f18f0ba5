import Mathlib.Logic.Function.Basic
import MarkupHarden.Proofs.Dom.LinkRequests
import MarkupHarden.Proofs.Dom.Rightmost

/-!
# Documents as ordered forests

An ordered forest gives each node the list of its children and says no more.
Changes to a document are changes to the forest that its links show: a node
leaves the list that holds it, or comes to stand at a place in a list.  Lists,
payloads and subtrees that a change is not about stay as they were.
-/

namespace MarkupHarden.Dom

/-- The list of children of each node. -/
abbrev OrderedForest := NodeId → List NodeId

namespace OrderedForest

/-- The forest with `id` in no list. -/
def remove (forest : OrderedForest) (id : NodeId) : OrderedForest :=
  fun node => (forest node).erase id

/-- The forest with `child` at the end of the list of `parent`. -/
def append (forest : OrderedForest) (parent child : NodeId) : OrderedForest :=
  fun node => if node = parent then forest node ++ [child] else forest node

/-- The forest with `new` where `old` stands. -/
def exchange (forest : OrderedForest) (old new : NodeId) : OrderedForest :=
  fun node => (forest node).replace old new

end OrderedForest

namespace Document

variable {document after : Document} {forest : OrderedForest}
  {id parent child old new : NodeId}

/-! ### The forest that links show -/

/-- The links at all nodes, read in either direction, are those of the
forest. -/
def Shows (document : Document) (forest : OrderedForest) : Prop :=
  ∀ node, document.links.ChildrenOf node (forest node)

theorem WellFormed.shows (wellFormed : document.WellFormed) :
    document.Shows document.children :=
  wellFormed.childrenOf

/-- Links show one forest only. -/
theorem Shows.eq_children (shows : document.Shows forest)
    (wellFormed : document.WellFormed) : forest = document.children := by
  funext node
  exact (shows node).forward.unique (wellFormed.childrenOf node).forward

/-- The document `after` shows a forest and has payloads that are those of
`document` except at the nodes in `touched`, and no other subtree changes. -/
structure Rearranged (document : Document) (touched : NodeId → Prop)
    (forest : OrderedForest) (payloads : NodeId → Option NodeData)
    (after : Document) : Prop where
  wellFormed : after.WellFormed
  shows : after.Shows forest
  data? : after.data? = payloads
  others : ∀ node < document.nodeCount, ¬touched node →
    after.children node = document.children node ∧
      after.data? node = document.data? node
  subtree : ∀ top < document.nodeCount,
    (∀ node, touched node → ¬document.InSubtree node top) →
      after.subtree top = document.subtree top ∧
        after.tree top = document.tree top

/-- What is below a node without touched nodes does not change. -/
theorem WellFormed.rearranged (wellFormed : document.WellFormed)
    (later : after.WellFormed) (nodeCount : document.nodeCount ≤ after.nodeCount)
    {touched : NodeId → Prop} {payloads : NodeId → Option NodeData}
    (children : after.children = forest) (data : after.data? = payloads)
    (others : ∀ node < document.nodeCount, ¬touched node →
      forest node = document.children node ∧
        payloads node = document.data? node) :
    document.Rearranged touched forest payloads after := by
  subst children data
  refine ⟨later, later.shows, rfl, others, ?_⟩
  intro top inside apart
  have same : ∀ node, document.InSubtree node top →
      after.children node = document.children node ∧
        after.data? node = document.data? node := by
    intro node below
    apply others node (lt_of_inSubtree below inside)
    exact fun isTouched => apart node isTouched below
  constructor
  · exact wellFormed.subtree_congr later nodeCount inside fun node below =>
      (same node below).1
  · exact wellFormed.tree_congr later top fun node below =>
      (same node below).symm

/-! ### Taking nodes out and putting them in -/

theorem WellFormed.not_mem_children (wellFormed : document.WellFormed)
    (node : NodeId) (elsewhere : document.parent? id ≠ some node) :
    id ∉ document.children node :=
  fun member => elsewhere ((wellFormed.mem_children node id).mp member)

theorem WellFormed.children_detach_eq_remove (wellFormed : document.WellFormed)
    (id : NodeId) :
    (document.detach id).children =
      OrderedForest.remove document.children id := by
  funext node
  unfold OrderedForest.remove
  cases hangs : document.parent? id with
  | none =>
      have absent : id ∉ document.children node :=
        wellFormed.not_mem_children node (by simp [hangs])
      rw [List.erase_of_not_mem absent, Document.detach, hangs]
  | some parent =>
      rw [wellFormed.children_detach hangs]
      split
      next => rfl
      next elsewhere =>
        have absent : id ∉ document.children node :=
          wellFormed.not_mem_children node (by simp [hangs, Ne.symm elsewhere])
        rw [List.erase_of_not_mem absent]

theorem WellFormed.detach_rearranges (wellFormed : document.WellFormed)
    (id : NodeId) :
    document.Rearranged (fun node => id ∈ document.children node)
      (OrderedForest.remove document.children id) document.data?
      (document.detach id) := by
  apply wellFormed.rearranged (wellFormed.detach id)
    (Nat.le_of_eq (nodeCount_detach id).symm)
  · exact wellFormed.children_detach_eq_remove id
  · funext node
    exact data?_detach node
  · intro node _ absent
    exact ⟨List.erase_of_not_mem absent, rfl⟩

theorem appendChild_ok (succeeds : (document.appendChild parent child).1 = .ok ()) :
    document.appendRefusal? parent child = none ∧
      (document.appendChild parent child).2 =
        (document.detach child).linkLast parent child := by
  unfold appendChild at succeeds ⊢
  split at succeeds
  · contradiction
  next allowed => exact ⟨allowed, rfl⟩

theorem WellFormed.appendChild_rearranges (wellFormed : document.WellFormed)
    (succeeds : (document.appendChild parent child).1 = .ok ()) :
    document.Rearranged
      (fun node => node = parent ∨ child ∈ document.children node)
      (OrderedForest.append (OrderedForest.remove document.children child)
        parent child)
      document.data? (document.appendChild parent child).2 := by
  obtain ⟨allowed, appended⟩ := appendChild_ok succeeds
  obtain ⟨holds, _, _⟩ := wellFormed.facts_of_allowed allowed
  obtain ⟨_, present, _⟩ := (Option.any_eq_true _ _).mp holds
  have inside : parent < (document.detach child).nodeCount := by
    rw [nodeCount_detach]
    exact lt_of_data?_eq_some present
  apply wellFormed.rearranged (wellFormed.appendChild parent child)
  · rw [appended, nodeCount_linkLast, nodeCount_detach]
  · funext node
    rw [appended, children_linkLast inside,
      wellFormed.children_detach_eq_remove]
    rfl
  · funext node
    rw [appended, data?_linkLast, data?_detach]
  · intro node _ apart
    obtain ⟨notParent, absent⟩ := not_or.mp apart
    refine ⟨?_, rfl⟩
    rw [OrderedForest.append, if_neg notParent, OrderedForest.remove,
      List.erase_of_not_mem absent]

theorem replaceChild_ok (different : old ≠ new)
    (succeeds : (document.replaceChild old new).1 = .ok ()) :
    ∃ parent, document.parent? old = some parent ∧
      document.replaceRefusal? parent new = none ∧
        (document.replaceChild old new).2 =
          (document.detach new).exchanged parent old new := by
  unfold replaceChild at succeeds ⊢
  cases hangs : document.parent? old with
  | none =>
      rw [hangs] at succeeds
      contradiction
  | some parent =>
      refine ⟨parent, rfl, ?_⟩
      rw [hangs] at succeeds
      simp only [if_neg different] at succeeds ⊢
      cases allowed : document.replaceRefusal? parent new with
      | none => exact ⟨rfl, rfl⟩
      | some refusal =>
          rw [allowed] at succeeds
          contradiction

/-- A node that was replaced has no parent. -/
theorem parent?_replaceChild (different : old ≠ new)
    (succeeds : (document.replaceChild old new).1 = .ok ()) :
    (document.replaceChild old new).2.parent? old = none := by
  obtain ⟨parent, hangs, _, replaced⟩ := replaceChild_ok different succeeds
  have inside : old < ((document.detach new).mapChildren parent
      (·.replace old new)).nodeCount := by
    rw [nodeCount_mapChildren, WellFormed.nodeCount_detach]
    exact lt_of_parent?_eq_some hangs
  rw [replaced, exchanged]
  unfold parent?
  rw [setParent, node?_modifyNode, if_neg different.symm]
  exact (parent?_setParent inside none old).trans (if_pos rfl)

theorem WellFormed.replaceChild_rearranges (wellFormed : document.WellFormed)
    (different : old ≠ new)
    (succeeds : (document.replaceChild old new).1 = .ok ()) :
    document.Rearranged
      (fun node => old ∈ document.children node ∨
        new ∈ document.children node)
      (OrderedForest.exchange (OrderedForest.remove document.children new)
        old new)
      document.data? (document.replaceChild old new).2 := by
  obtain ⟨parent, hangs, _, replaced⟩ := replaceChild_ok different succeeds
  have inside : parent < (document.detach new).nodeCount := by
    rw [nodeCount_detach]
    exact wellFormed.parent_lt hangs
  -- Outside the list that held `old` nothing is exchanged.
  have elsewhere : ∀ node, old ∉ document.children node →
      ((document.children node).erase new).replace old new =
        (document.children node).erase new := by
    intro node absent
    apply List.replace_of_not_mem
    exact fun member => absent (List.mem_of_mem_erase member)
  apply wellFormed.rearranged (wellFormed.replaceChild old new)
  · rw [replaced, exchanged, nodeCount_setParent, nodeCount_setParent,
      nodeCount_mapChildren, nodeCount_detach]
  · funext node
    rw [replaced, children_exchanged inside,
      wellFormed.children_detach_eq_remove]
    unfold OrderedForest.exchange OrderedForest.remove
    split
    next => rfl
    next other =>
      apply Eq.symm
      apply elsewhere
      apply wellFormed.not_mem_children
      simp [hangs, Ne.symm other]
  · funext node
    rw [replaced, data?_exchanged, data?_detach]
  · intro node _ apart
    obtain ⟨notOld, notNew⟩ := not_or.mp apart
    refine ⟨?_, rfl⟩
    unfold OrderedForest.exchange OrderedForest.remove
    rw [elsewhere node notOld, List.erase_of_not_mem notNew]

/-- A node that is taken elsewhere keeps what is below it. -/
theorem Rearranged.subtree_of_moved {touched : NodeId → Prop}
    {payloads : NodeId → Option NodeData}
    (rearranged : document.Rearranged touched forest payloads after)
    (wellFormed : document.WellFormed) (inside : id < document.nodeCount)
    (apart : ¬document.InSubtree parent id)
    (touches : ∀ node, touched node →
      node = parent ∨ id ∈ document.children node) :
    after.subtree id = document.subtree id ∧
      after.tree id = document.tree id := by
  apply rearranged.subtree id inside
  intro node isTouched below
  rcases touches node isTouched with isParent | holds
  · rw [isParent] at below
    exact apart below
  · have hangs := (wellFormed.mem_children node id).mp holds
    exact wellFormed.not_inSubtree_of_hangsUnder hangs below

theorem WellFormed.subtree_appendChild (wellFormed : document.WellFormed)
    (succeeds : (document.appendChild parent child).1 = .ok ()) :
    (document.appendChild parent child).2.subtree child =
        document.subtree child ∧
      (document.appendChild parent child).2.tree child =
        document.tree child := by
  obtain ⟨allowed, _⟩ := appendChild_ok succeeds
  obtain ⟨_, inside, apart⟩ := wellFormed.facts_of_allowed allowed
  exact (wellFormed.appendChild_rearranges succeeds).subtree_of_moved
    wellFormed inside apart fun _ touched => touched

theorem WellFormed.subtree_replaceChild (wellFormed : document.WellFormed)
    (different : old ≠ new)
    (succeeds : (document.replaceChild old new).1 = .ok ()) :
    (document.replaceChild old new).2.subtree new = document.subtree new ∧
      (document.replaceChild old new).2.tree new = document.tree new := by
  obtain ⟨parent, hangs, allowed, _⟩ := replaceChild_ok different succeeds
  obtain ⟨inside, apart⟩ := wellFormed.replaceRefusal?_eq_none_iff.mp allowed
  apply (wellFormed.replaceChild_rearranges different
    succeeds).subtree_of_moved wellFormed inside apart
  intro node touched
  apply touched.imp_left
  intro holds
  have above := (wellFormed.mem_children node old).mp holds
  exact Option.some.inj (above.symm.trans hangs)

/-- What is left of the children of a node stays with it when the node is
replaced. -/
theorem WellFormed.children_replaceChild_old (wellFormed : document.WellFormed)
    (different : old ≠ new)
    (succeeds : (document.replaceChild old new).1 = .ok ()) :
    (document.replaceChild old new).2.children old =
      (document.children old).erase new := by
  have rearranged := wellFormed.replaceChild_rearranges different succeeds
  rw [← rearranged.shows.eq_children rearranged.wellFormed]
  apply List.replace_of_not_mem
  intro member
  have hangs := (wellFormed.mem_children old old).mp
    (List.mem_of_mem_erase member)
  exact wellFormed.acyclic old (.single hangs)

/-- Nothing changes when a node is to replace itself. -/
theorem replaceChild_self (id : NodeId) :
    (document.replaceChild id id).2 = document := by
  unfold replaceChild
  cases document.parent? id with
  | none => rfl
  | some parent => simp only [if_pos]

/-! ### Text -/

theorem WellFormed.appendText_extends (wellFormed : document.WellFormed)
    {last : NodeId} {before text : String} (nonempty : text ≠ "")
    (isLast : document.lastChild? parent = some last)
    (isText : document.data? last = some (.text before)) :
    (document.appendText parent text).1 = .ok () ∧
      document.Rearranged (· = last) document.children
        (Function.update document.data? last (some (.text (before ++ text))))
        (document.appendText parent text).2 := by
  have extended := appendText_eq_setData nonempty
    (lastText?_eq_some_iff.mpr ⟨isLast, isText⟩)
  rw [extended]
  refine ⟨rfl, ?_⟩
  apply wellFormed.rearranged (wellFormed.setData_text isText (before ++ text))
  · exact Nat.le_of_eq nodeCount_setData.symm
  · funext node
    exact children_setData node
  · funext node
    rw [data?_setData, Function.update_apply]
    by_cases same : last = node
    · rw [if_pos same, if_pos same.symm, ← same, isText]
      rfl
    · rw [if_neg same, if_neg (Ne.symm same)]
  · intro node _ other
    exact ⟨rfl, Function.update_of_ne other _ _⟩

theorem WellFormed.appendText_adds (wellFormed : document.WellFormed)
    (holds : (document.data? parent).any NodeData.canHoldChildren = true)
    {text : String} (nonempty : text ≠ "")
    (absent : document.lastText? parent = none) :
    (document.appendText parent text).1 = .ok () ∧
      document.Rearranged (· = parent)
        (OrderedForest.append document.children parent document.nodeCount)
        (Function.update document.data? document.nodeCount
          (some (.text text)))
        (document.appendText parent text).2 := by
  obtain ⟨_, present, _⟩ := (Option.any_eq_true _ _).mp holds
  have inside := lt_of_data?_eq_some present
  have added := appendText_eq_grown wellFormed holds nonempty absent
  rw [added]
  refine ⟨rfl, ?_⟩
  apply wellFormed.rearranged (wellFormed.grown holds (.text text))
  · rw [nodeCount_grown]
    exact Nat.le_succ _
  · funext node
    exact children_grown inside node
  · funext node
    rw [data?_grown inside, Function.update_apply]
  · intro node old other
    exact ⟨if_neg other, Function.update_of_ne (Nat.ne_of_lt old) _ _⟩

/-- Where no children are allowed a text is created, but not put in. -/
theorem WellFormed.appendText_of_leaf (wellFormed : document.WellFormed)
    (leaf : (document.data? parent).any NodeData.canHoldChildren = false)
    {text : String} (nonempty : text ≠ "") :
    ∃ refusal, document.appendText parent text =
      (.error refusal, (document.create (.text text)).2) := by
  have created := wellFormed.create (.text text)
  have stillLeaf : (((document.create (.text text)).2.data? parent).any
      NodeData.canHoldChildren) = false := by
    rw [data?_create]
    split
    · rfl
    · exact leaf
  have empty : document.lastChild? parent = none := by
    have bare : document.children parent = [] := by
      cases present : document.data? parent with
      | none =>
          apply children_of_absent
          apply Nat.le_of_not_lt
          intro inside
          obtain ⟨data, found⟩ := exists_data_of_lt inside
          rw [found] at present
          contradiction
      | some data =>
          rw [present] at leaf
          exact wellFormed.childless parent data present leaf
    rw [lastChild?, bare]
    rfl
  have refused : ∃ refusal,
      (document.create (.text text)).2.appendRefusal? parent
        document.nodeCount = some refusal := by
    apply Option.ne_none_iff_exists'.mp
    intro allowed
    obtain ⟨holds, _⟩ := created.facts_of_allowed allowed
    rw [stillLeaf] at holds
    contradiction
  obtain ⟨refusal, refused⟩ := refused
  have notEmpty : text.isEmpty = false := by simpa using nonempty
  have attempt : document.appendNew parent (.text text) =
      (.error refusal, (document.create (.text text)).2) := by
    simp only [Document.appendNew, Document.appendChild]
    rw [show (document.create (.text text)).1 = document.nodeCount from rfl,
      refused]
    rfl
  refine ⟨refusal, ?_⟩
  rw [Document.appendText, notEmpty, empty]
  simp only [Bool.false_eq_true, if_false, Option.map_none, attempt]
  rfl

theorem WellFormed.appendText_refused (wellFormed : document.WellFormed)
    (leaf : (document.data? parent).any NodeData.canHoldChildren = false)
    {text : String} (nonempty : text ≠ "") :
    (∃ refusal, (document.appendText parent text).1 = .error refusal) ∧
      document.Rearranged (fun _ => False) document.children
        (document.appendText parent text).2.data?
        (document.appendText parent text).2 := by
  obtain ⟨refusal, outcome⟩ := wellFormed.appendText_of_leaf leaf nonempty
  rw [outcome]
  refine ⟨⟨refusal, rfl⟩, ?_⟩
  apply wellFormed.rearranged (wellFormed.create (.text text))
  · rw [nodeCount_create]
    exact Nat.le_succ _
  · funext node
    exact children_create node
  · rfl
  · intro node old _
    exact ⟨rfl, (data?_create node).trans (if_neg (Nat.ne_of_lt old))⟩

/-- What appending text comes to: the last child grows if it is a text, a new
text comes behind it otherwise, and where no children are allowed nothing is put
in. -/
inductive TextOutcome (document : Document) (forest : OrderedForest)
    (parent : NodeId) (text : String) :
    Except Refusal Unit × Document → Prop where
  | extended {last : NodeId} {before : String} {after : Document} :
      (forest parent).getLast? = some last →
      document.data? last = some (.text before) →
      document.Rearranged (· = last) forest
        (Function.update document.data? last (some (.text (before ++ text))))
        after →
      TextOutcome document forest parent text (.ok (), after)
  | added {after : Document} :
      (∀ last before, (forest parent).getLast? = some last →
        document.data? last ≠ some (.text before)) →
      (document.data? parent).any NodeData.canHoldChildren = true →
      document.Rearranged (· = parent)
        (forest.append parent document.nodeCount)
        (Function.update document.data? document.nodeCount (some (.text text)))
        after →
      TextOutcome document forest parent text (.ok (), after)
  | refused {refusal : Refusal} {after : Document} :
      (document.data? parent).any NodeData.canHoldChildren = false →
      document.Rearranged (fun _ => False) forest after.data? after →
      TextOutcome document forest parent text (.error refusal, after)

theorem WellFormed.textOutcome (wellFormed : document.WellFormed)
    (parent : NodeId) {text : String} (nonempty : text ≠ "") :
    document.TextOutcome document.children parent text
      (document.appendText parent text) := by
  have outcome : document.appendText parent text =
      ((document.appendText parent text).1,
        (document.appendText parent text).2) := rfl
  cases found : document.lastText? parent with
  | some pair =>
      obtain ⟨last, before⟩ := pair
      obtain ⟨isLast, isText⟩ := lastText?_eq_some_iff.mp found
      obtain ⟨succeeds, rearranged⟩ :=
        wellFormed.appendText_extends nonempty isLast isText
      rw [outcome, succeeds]
      exact .extended isLast isText rearranged
  | none =>
      cases holds : (document.data? parent).any NodeData.canHoldChildren with
      | true =>
          obtain ⟨succeeds, rearranged⟩ :=
            wellFormed.appendText_adds holds nonempty found
          rw [outcome, succeeds]
          refine .added ?_ holds rearranged
          intro last before isLast isText
          rw [lastText?_eq_some_iff.mpr ⟨isLast, isText⟩] at found
          contradiction
      | false =>
          obtain ⟨⟨refusal, fails⟩, rearranged⟩ :=
            wellFormed.appendText_refused holds nonempty
          rw [outcome, fails]
          exact .refused holds rearranged

/-! ### Changes to the forest -/

/-- Every change to the links of a document is the change to the forest that it
is meant to be, and rewriting a few links comes to the same. -/
theorem WellFormed.forest_changes (wellFormed : document.WellFormed)
    (shows : document.Shows forest) :
    document.LinksFollow ∧
    (∀ parent child, (document.appendChild parent child).1 = .ok () →
      let after := (document.appendChild parent child).2
      document.Rearranged (fun node => node = parent ∨ child ∈ forest node)
          ((forest.remove child).append parent child) document.data? after ∧
        after.subtree child = document.subtree child ∧
          after.tree child = document.tree child) ∧
    (∀ old new, old ≠ new → (document.replaceChild old new).1 = .ok () →
      let after := (document.replaceChild old new).2
      document.Rearranged (fun node => old ∈ forest node ∨ new ∈ forest node)
          ((forest.remove new).exchange old new) document.data? after ∧
        after.parent? old = none ∧
        after.children old = (forest old).erase new ∧
        after.subtree new = document.subtree new ∧
          after.tree new = document.tree new) ∧
    (∀ id, (document.replaceChild id id).2 = document) ∧
    (∀ id, document.Rearranged (fun node => id ∈ forest node)
      (forest.remove id) document.data? (document.detach id)) ∧
    (∀ parent text, text ≠ "" →
      document.TextOutcome forest parent text
        (document.appendText parent text)) := by
  have same := shows.eq_children wellFormed
  subst same
  refine ⟨wellFormed.linksFollow, ?_, ?_, replaceChild_self,
    wellFormed.detach_rearranges, ?_⟩
  · intro parent child succeeds
    exact ⟨wellFormed.appendChild_rearranges succeeds,
      wellFormed.subtree_appendChild succeeds⟩
  · intro old new different succeeds
    exact ⟨wellFormed.replaceChild_rearranges different succeeds,
      parent?_replaceChild different succeeds,
      wellFormed.children_replaceChild_old different succeeds,
      wellFormed.subtree_replaceChild different succeeds⟩
  · intro parent text nonempty
    exact wellFormed.textOutcome parent nonempty

/-- A list of three items, with an element in the second one. -/
def nestedList : Document :=
  let document := empty.grown root (.element (.html "ul"))
  let document := document.grown 1 (.element (.html "li"))
  let document := document.grown 1 (.element (.html "li"))
  let document := document.grown 1 (.element (.html "li"))
  document.grown 3 (.element (.html "b"))

/-- The first item is moved behind the others, the second one is replaced by the
third, also where only links are rewritten, and by the element in it, and the
list gets a text. -/
theorem forest_changes_nestedList :
    let forest : OrderedForest := nestedList.children
    nestedList.links.replaceChild? 3 4 =
        some (.ok (), (nestedList.replaceChild 3 4).2.links) ∧
      (nestedList.Rearranged (fun node => node = 1 ∨ 2 ∈ forest node)
          ((forest.remove 2).append 1 2) nestedList.data?
          (nestedList.appendChild 1 2).2 ∧
        (nestedList.appendChild 1 2).2.children 1 = [3, 4, 2]) ∧
      (nestedList.Rearranged (fun node => 3 ∈ forest node ∨ 4 ∈ forest node)
          ((forest.remove 4).exchange 3 4) nestedList.data?
          (nestedList.replaceChild 3 4).2 ∧
        (nestedList.replaceChild 3 4).2.children 1 = [2, 4]) ∧
      (nestedList.Rearranged (fun node => 3 ∈ forest node ∨ 5 ∈ forest node)
          ((forest.remove 5).exchange 3 5) nestedList.data?
          (nestedList.replaceChild 3 5).2 ∧
        (nestedList.replaceChild 3 5).2.children 1 = [2, 5, 4]) ∧
      nestedList.TextOutcome forest 1 "x" (nestedList.appendText 1 "x") := by
  have wellFormed : nestedList.WellFormed :=
    wellFormed_of_hasOrderedLinks (by decide)
  obtain ⟨follow, appends, exchanges, _, _, texts⟩ :=
    wellFormed.forest_changes wellFormed.shows
  refine ⟨follow.replaceChild? 3 4, ⟨(appends 1 2 ?_).1, ?_⟩,
    ⟨(exchanges 3 4 ?_ ?_).1, ?_⟩, ⟨(exchanges 3 5 ?_ ?_).1, ?_⟩, texts 1 "x" ?_⟩
  all_goals decide

end Document

end MarkupHarden.Dom
