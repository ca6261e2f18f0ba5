import MarkupHarden.Proofs.Dom.Insertion
import MarkupHarden.Proofs.Dom.LinkSurgery

/-!
# Requests to a table of links

Each request to the links of a well-formed document never comes to rewrite a
node that is not there, and its answer and the links after it are those of the
same request to the document.
-/

namespace MarkupHarden.Dom.Document

variable {document source : Document} {id parent child old new : NodeId}

/-! ### Reading -/

theorem climbsTo_links_iff {ancestor : NodeId} (limit : Nat) (id : NodeId) :
    document.links.climbsTo ancestor limit id = true ↔
      ancestor ∈ document.ancestorsUpTo limit id := by
  induction limit generalizing id with
  | zero => simp [LinkTable.climbsTo, ancestorsUpTo]
  | succ limit induction =>
      rw [LinkTable.climbsTo, ancestorsUpTo, parent?_links, Bool.or_eq_true,
        decide_eq_true_iff, List.mem_cons, eq_comm]
      apply or_congr_right
      cases document.parent? id with
      | none => simp
      | some parent => exact induction parent

theorem isInclusiveAncestor_links (ancestor id : NodeId) :
    document.links.isInclusiveAncestor ancestor id =
      document.isInclusiveAncestor ancestor id := by
  rw [Bool.eq_iff_iff, LinkTable.isInclusiveAncestor, nodeCount_links,
    climbsTo_links_iff, isInclusiveAncestor, List.contains_iff_mem]
  rfl

theorem appendRefusal?_links (parent child : NodeId) :
    document.links.appendRefusal? parent child =
      document.appendRefusal? parent child := by
  unfold LinkTable.appendRefusal?
  rw [data?_links, kind?_links, isInclusiveAncestor_links]
  rfl

theorem replaceRefusal?_links (parent new : NodeId) :
    document.links.replaceRefusal? parent new =
      document.replaceRefusal? parent new := by
  unfold LinkTable.replaceRefusal?
  rw [nodeCount_links, isInclusiveAncestor_links]
  rfl

/-! ### Lists of children -/

/-- The children of a node are read off its links. -/
theorem WellFormed.children_links (wellFormed : document.WellFormed) :
    document.links.children = document.children := by
  funext id
  rw [LinkTable.children, nodeCount_links]
  exact LinkTable.siblingsFrom_eq (wellFormed.childrenOf id).forward
    (wellFormed.length_children_le id)

/-! ### Payloads and new nodes -/

theorem create_links (document : Document) (data : NodeData) :
    document.links.create data =
      ((document.create data).1, (document.create data).2.links) := by
  have links : (document.create data).2.linksAt = document.linksAt :=
    linksAt_congr children_create parent?_create
  refine Prod.ext nodeCount_links (LinkTable.eq_of_node?_eq fun id => ?_)
  rw [LinkTable.node?_create, nodeCount_links, node?_links, node?_links, links,
    data?_create]
  split
  next fresh =>
    rw [Option.map_some, linksAt_of_absent (Nat.le_of_eq fresh.symm)]
  next => rfl

theorem setData?_links (inside : id < document.nodeCount) (data : NodeData) :
    document.links.setData? id data = some (document.setData id data).links := by
  have links : (document.setData id data).linksAt = document.linksAt :=
    linksAt_congr children_setData parent?_setData
  have present : id < document.links.nodeCount := nodeCount_links.symm ▸ inside
  obtain ⟨later, rewritten, _, nodes⟩ :=
    LinkTable.exists_rewriteNode? present fun node => { node with data := data }
  have same : later = (document.setData id data).links := by
    apply LinkTable.eq_of_node?_eq
    intro other
    rw [nodes, node?_links, node?_links, links, data?_setData]
    split
    · cases document.data? other <;> rfl
    · rfl
  exact same ▸ rewritten

/-! ### Detaching and appending -/

theorem WellFormed.lacks_detach (wellFormed : document.WellFormed)
    {before after : List NodeId}
    (split : document.children parent = before ++ id :: after) :
    (document.detach id).Lacks document parent before id after := by
  have hangs : document.parent? id = some parent :=
    (wellFormed.mem_children parent id).mp (by simp [split])
  refine ⟨wellFormed, ?_, ?_, split, ?_, ?_⟩
  · exact funext data?_detach
  · exact WellFormed.parent?_detach hangs
  · rw [wellFormed.children_detach hangs, if_pos rfl, split,
      List.erase_append_right _ (wellFormed.not_mem_before split),
      List.erase_cons_head]
  · intro other different
    rw [wellFormed.children_detach hangs, if_neg different]

theorem WellFormed.detach?_links (wellFormed : document.WellFormed)
    (id : NodeId) :
    document.links.detach? id = some (document.detach id).links := by
  cases hangs : document.parent? id with
  | none =>
      rw [LinkTable.detach?, parent?_links, hangs, Document.detach, hangs]
  | some parent =>
      obtain ⟨before, after, split⟩ := wellFormed.exists_split hangs
      exact (wellFormed.lacks_detach split).detach?_links

/-- With a node linked behind the others, its list has one entry more. -/
theorem WellFormed.linkLast?_links
    (later : (document.linkLast parent child).WellFormed)
    (parentInside : parent < document.nodeCount)
    (childInside : child < document.nodeCount)
    (free : document.parent? child = none) :
    document.links.linkLast? parent child =
      some (document.linkLast parent child).links := by
  have lacks : document.Lacks (document.linkLast parent child) parent
      (document.children parent) child [] := by
    refine ⟨later, ?_, ?_, ?_, ?_, ?_⟩
    · exact (funext data?_linkLast).symm
    · intro other
      rw [parent?_linkLast childInside]
      split
      next same => rw [same, free]
      next => rfl
    · rw [children_linkLast parentInside, if_pos rfl]
    · rw [List.append_nil]
    · intro other different
      rw [children_linkLast parentInside, if_neg different]
  rw [LinkTable.linkLast?, lastChild?_links]
  exact lacks.insert?_links

theorem WellFormed.appendChild?_links (wellFormed : document.WellFormed)
    (parent child : NodeId) :
    document.links.appendChild? parent child =
      some ((document.appendChild parent child).1,
        (document.appendChild parent child).2.links) := by
  have appended := wellFormed.appendChild parent child
  unfold LinkTable.appendChild? Document.appendChild at *
  rw [appendRefusal?_links]
  cases allowed : document.appendRefusal? parent child with
  | some refusal => rfl
  | none =>
      obtain ⟨holds, childInside, _⟩ := wellFormed.facts_of_allowed allowed
      obtain ⟨_, present, _⟩ := (Option.any_eq_true _ _).mp holds
      rw [allowed] at appended
      have count : (document.detach child).nodeCount = document.nodeCount :=
        WellFormed.nodeCount_detach child
      have linked := WellFormed.linkLast?_links appended
        (count ▸ lt_of_data?_eq_some present) (count ▸ childInside)
        (WellFormed.parent?_detach_self child)
      simp only [wellFormed.detach?_links, Option.bind_eq_bind,
        Option.bind_some, linked]

/-- Adding a node is creating and appending it. -/
theorem appendNew_eq_appendChild (document : Document) (parent : NodeId)
    (data : NodeData) :
    ((document.appendNew parent data).1.map fun _ => (),
        (document.appendNew parent data).2) =
      (document.create data).2.appendChild parent document.nodeCount := by
  unfold appendNew
  rw [show document.create data =
    (document.nodeCount, (document.create data).2) from rfl]
  dsimp only
  cases (document.create data).2.appendChild parent document.nodeCount with
  | mk outcome after => cases outcome <;> rfl

theorem WellFormed.appendText?_links (wellFormed : document.WellFormed)
    (parent : NodeId) (text : String) :
    document.links.appendText? parent text =
      some ((document.appendText parent text).1,
        (document.appendText parent text).2.links) := by
  have added : (document.create (.text text)).2.links.appendChild? parent
        document.nodeCount =
      some ((document.appendNew parent (.text text)).1.map fun _ => (),
        (document.appendNew parent (.text text)).2.links) := by
    rw [(wellFormed.create (.text text)).appendChild?_links,
      ← appendNew_eq_appendChild]
  unfold LinkTable.appendText? Document.appendText
  rw [lastChild?_links, data?_links, create_links]
  split
  next => rfl
  next =>
    cases isLast : document.lastChild? parent with
    | none => exact added
    | some last =>
        rw [Option.map_some]
        cases payload : document.data? last with
        | none => exact added
        | some data =>
            cases data with
            | text existing =>
                simp only [setData?_links (lt_of_data?_eq_some payload)]
                rfl
            | _ => exact added

/-! ### Replacing -/

/-- Without the replaced node, the place for the new one is between the
neighbours of the old. -/
theorem WellFormed.lacks_exchanged (wellFormed : document.WellFormed)
    (later : (document.exchanged parent old new).WellFormed)
    {before after : List NodeId}
    (split : document.children parent = before ++ old :: after)
    (free : document.parent? new = none)
    (newInside : new < document.nodeCount) :
    (document.detach old).Lacks (document.exchanged parent old new) parent before
      new after := by
  have lacks := wellFormed.lacks_detach split
  have oldInside := lt_of_parent?_eq_some lacks.hangs
  have parentInside := wellFormed.parent_lt lacks.hangs
  refine ⟨later, ?_, ?_, ?_, lacks.lacking, ?_⟩
  · rw [lacks.data?]
    exact (funext data?_exchanged).symm
  · intro other
    rw [lacks.parent?, parent?_exchanged oldInside newInside]
    by_cases isNew : other = new
    · rw [if_pos isNew, isNew, free, ite_self]
    · rw [if_neg isNew, if_neg isNew]
  · rw [children_exchanged parentInside, if_pos rfl, split,
      WellFormed.replace_middle (wellFormed.not_mem_before split)]
  · intro other different
    rw [lacks.elsewhere other different, children_exchanged parentInside,
      if_neg different]

theorem WellFormed.replaceChild?_links (wellFormed : document.WellFormed)
    (old new : NodeId) :
    document.links.replaceChild? old new =
      some ((document.replaceChild old new).1,
        (document.replaceChild old new).2.links) := by
  have replaced := wellFormed.replaceChild old new
  unfold LinkTable.replaceChild?
  rw [parent?_links]
  cases hangs : document.parent? old with
  | none => rw [Document.replaceChild, hangs]
  | some parent =>
      by_cases same : old = new
      · simp only [Document.replaceChild, hangs, if_pos same]
      simp only [if_neg same, replaceRefusal?_links]
      cases allowed : document.replaceRefusal? parent new with
      | some refusal =>
          simp only [Document.replaceChild, hangs, if_neg same, allowed]
      | none =>
          have outcome : document.replaceChild old new =
              (.ok (), (document.detach new).exchanged parent old new) := by
            simp only [Document.replaceChild, hangs, if_neg same, allowed]
            rfl
          have stillHangs : (document.detach new).parent? old = some parent := by
            rw [WellFormed.parent?_detach_of_ne same, hangs]
          rw [outcome] at replaced ⊢
          have detached := wellFormed.detach new
          obtain ⟨before, after, split⟩ := detached.exists_split stillHangs
          have newInside : new < (document.detach new).nodeCount := by
            rw [WellFormed.nodeCount_detach]
            exact (wellFormed.replaceRefusal?_eq_none_iff.mp allowed).1
          have inserted := (detached.lacks_exchanged replaced split
            (WellFormed.parent?_detach_self new) newInside).insert?_links
          simp only [wellFormed.detach?_links, detached.detach?_links,
            Option.bind_eq_bind, Option.bind_some, previousSibling?_links,
            nextSibling?_links, detached.previousSibling?_eq split,
            detached.nextSibling?_eq split, inserted]

/-! ### Copying -/

theorem WellFormed.copyChildren?_links (wellFormed : document.WellFormed)
    (ids : List NodeId) (present : ∀ id ∈ ids, id < source.nodeCount)
    (holds : ids ≠ [] →
      (document.data? parent).any NodeData.canHoldChildren = true)
    (pairs : List (NodeId × NodeId)) :
    LinkTable.copyChildren? source.links parent ids document.links pairs =
      some ((copyChildren source parent ids document pairs).1.links,
        (copyChildren source parent ids document pairs).2) := by
  induction ids generalizing document pairs with
  | nil => rfl
  | cons child ids induction =>
      obtain ⟨childPresent, othersPresent⟩ := List.forall_mem_cons.mp present
      obtain ⟨data, payload⟩ := exists_data_of_lt childPresent
      have canHold := holds (List.cons_ne_nil child ids)
      obtain ⟨_, found, _⟩ := (Option.any_eq_true _ _).mp canHold
      have inside := lt_of_data?_eq_some found
      have grown := wellFormed.grown canHold data
      have linked : (document.create data).2.links.linkLast? parent
          document.nodeCount = some (document.grown parent data).links := by
        apply WellFormed.linkLast?_links grown
        · rw [nodeCount_create]
          exact inside.trans (Nat.lt_succ_self _)
        · rw [nodeCount_create]
          exact Nat.lt_succ_self _
        · rw [parent?_create]
          exact parent?_of_absent (Nat.le_refl _)
      have stillHolds : ids ≠ [] →
          ((document.grown parent data).data? parent).any
            NodeData.canHoldChildren = true := by
        intro _
        rw [data?_grown_of_lt inside inside]
        exact canHold
      have rest := induction grown othersPresent stillHolds
        ((child, document.nodeCount) :: pairs)
      rw [LinkTable.copyChildren?, copyChildren, data?_links, payload]
      simp only [create_links]
      rw [show (document.create data).1 = document.nodeCount from rfl, linked]
      exact rest

/-- Round by round, the pairs that are still to be copied are the same, so that
each copy finds its place without children. -/
theorem WellFormed.copyPending?_links (wellFormed : document.WellFormed)
    (sourceWellFormed : source.WellFormed) (limit : Nat)
    {pending : List (NodeId × NodeId)}
    (awaiting : Awaiting source document pending) :
    LinkTable.copyPending? source.links limit pending document.links =
      some (copyPending source limit pending document).links := by
  induction limit generalizing document pending with
  | zero => rw [LinkTable.copyPending?, copyPending]
  | succ limit induction =>
      cases pending with
      | nil =>
          rw [LinkTable.copyPending?, copyPending]
          · simp
          · simp
      | cons pair pending =>
          obtain ⟨node, copy⟩ := pair
          have known : ∀ id ∈ source.children node, id < source.nodeCount :=
            fun _ member => sourceWellFormed.child_lt member
          have holds := awaiting.canHoldChildren sourceWellFormed
            List.mem_cons_self
          obtain ⟨middle, copies, copied, below⟩ :=
            copyChildren_eq wellFormed (source.children node) known holds []
          have round := wellFormed.copyChildren?_links (source.children node)
            known holds []
          rw [copied, List.append_nil] at round
          rw [LinkTable.copyPending?, copyPending, sourceWellFormed.children_links,
            round, copied, List.append_nil]
          exact induction below.wellFormed (awaiting.next below)

theorem WellFormed.importNode?_links (wellFormed : document.WellFormed)
    (sourceWellFormed : source.WellFormed) (id : NodeId) :
    document.links.importNode? source.links id =
      some ((document.importNode source id).1,
        (document.importNode source id).2.links) := by
  have copied : ∀ data, source.data? id = some data →
      LinkTable.copyPending? source.links source.links.nodeCount
          [(id, document.nodeCount)] (document.create data).2.links =
        some (copyPending source source.nodeCount [(id, document.nodeCount)]
          (document.create data).2).links := by
    intro data present
    rw [nodeCount_links]
    exact (wellFormed.create data).copyPending?_links sourceWellFormed _
      (Awaiting.create document present)
  unfold LinkTable.importNode? Document.importNode
  rw [data?_links]
  cases present : source.data? id with
  | none => rfl
  | some data =>
      have pending := copied data present
      cases data with
      | document => rfl
      | _ =>
          simp only [create_links]
          rw [show ∀ data, (document.create data).1 = document.nodeCount from
            fun _ => rfl, pending]
          rfl

/-! ### All requests -/

theorem shell?_links : LinkTable.shell? = some shell.links := by
  decide

theorem empty_links : LinkTable.empty = empty.links := by
  decide

/-- Each request to the links is answered as the document answers it, and leaves
behind the links of what becomes of the document. -/
structure LinksFollow (document : Document) : Prop where
  create : ∀ data, document.links.create data =
    ((document.create data).1, (document.create data).2.links)
  setData? : ∀ id < document.nodeCount, ∀ data,
    document.links.setData? id data = some (document.setData id data).links
  detach? : ∀ id, document.links.detach? id = some (document.detach id).links
  appendChild? : ∀ parent child, document.links.appendChild? parent child =
    some ((document.appendChild parent child).1,
      (document.appendChild parent child).2.links)
  appendText? : ∀ parent text, document.links.appendText? parent text =
    some ((document.appendText parent text).1,
      (document.appendText parent text).2.links)
  replaceChild? : ∀ old new, document.links.replaceChild? old new =
    some ((document.replaceChild old new).1,
      (document.replaceChild old new).2.links)
  importNode? : ∀ source : Document, source.WellFormed → ∀ id,
    document.links.importNode? source.links id =
      some ((document.importNode source id).1,
        (document.importNode source id).2.links)

theorem WellFormed.linksFollow (wellFormed : document.WellFormed) :
    document.LinksFollow where
  create := create_links document
  setData? := fun _ inside data => setData?_links inside data
  detach? := wellFormed.detach?_links
  appendChild? := wellFormed.appendChild?_links
  appendText? := wellFormed.appendText?_links
  replaceChild? := wellFormed.replaceChild?_links
  importNode? := fun _ sourceWellFormed =>
    wellFormed.importNode?_links sourceWellFormed

end MarkupHarden.Dom.Document
