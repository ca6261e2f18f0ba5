import Mathlib.Data.List.Chain
import MarkupHarden.Html.Serializer
import MarkupHarden.Html.TreeBuilder
import MarkupHarden.Proofs.Dom.Levels
import MarkupHarden.Proofs.Dom.Siblings
import MarkupHarden.Proofs.Html.Placement
import MarkupHarden.Proofs.Html.TextContent

/-!
# The shape of documents

`Shaped` is what can be expected of any document that markup is parsed into.
Two parts of it also hold of a document that is still being built.  `Tidy` says
that the nodes hang together and that neither texts nor void elements hold
anything odd; `Outline` tells where `html`, `head` and `body` are, as far as they
exist, and what stands around them.  Both outlast the ways in which a builder
changes a document: a new last child, a longer text, and further attributes.
-/

namespace MarkupHarden.Html

open Dom (Document Element NodeData NodeId)

variable {document : Document} {parent : NodeId} {data : NodeData}

/-! ### What is expected of a document -/

def isComment : NodeData → Bool
  | .comment _ => true
  | _ => false

/-- What may stand in front of `html`. -/
def isPreamble : NodeData → Bool
  | .doctype _ | .comment _ => true
  | _ => false

/-- What may stand between `head` and `body`. -/
def isFiller : NodeData → Bool
  | .text text => Builder.isWhitespace text
  | .comment _ => true
  | _ => false

/-- All of the nodes are of one kind. -/
def AllOf (document : Document) (fits : NodeData → Bool) (ids : List NodeId) :
    Prop :=
  ∀ id ∈ ids, (document.data? id).any fits = true

/-- The shape of a parsed document with its outer elements. -/
structure Shaped (limit : Nat) (document : Document) (html head body : NodeId) :
    Prop where
  rooted : document.data? Document.root = some .document
  /-- Doctypes and comments, and then `html`. -/
  top : ∃ prolog, document.children Document.root = prolog ++ [html] ∧
    AllOf document isPreamble prolog
  /-- Comments, `head`, comments and white space, and then `body`. -/
  sections : ∃ before between,
    document.children html = before ++ [head] ++ between ++ [body] ∧
      AllOf document isComment before ∧ AllOf document isFiller between
  isHtml : ∀ id, document.isHtmlElement id "html" = true ↔ id = html
  isHead : ∀ id, document.isHtmlElement id "head" = true ↔ id = head
  isBody : ∀ id, document.isHtmlElement id "body" = true ↔ id = body
  connected : ∀ id < document.nodeCount,
    id ∈ document.descendants Document.root
  filled : ∀ id, document.data? id ≠ some (.text "")
  apart : ∀ left right, document.nextSibling? left = some right →
    document.kind? left ≠ some .text ∨ document.kind? right ≠ some .text
  childless : ∀ id element, document.element? id = some element →
    element.ns = .html → element.localName ∈ voidElements →
      document.children id = []
  textOnly : ∀ id element, document.element? id = some element →
    element.ns = .html →
    element.localName ∈ "plaintext" :: textOnlyElements →
      document.children id = [] ∨ ∃ child text,
        document.children id = [child] ∧
          document.data? child = some (.text text) ∧
            (element.localName ∉ ["plaintext", "textarea", "title"] →
              ¬HoldsEndTag element.localName.toList text.toList)
  shallow : ∀ top ∈ [head, body], ∀ id levels,
    document.LevelsBelow top id levels → levels ≤ limit

/-! ### Tidy documents -/

theorem SameName.endsAtOnce {first second : Element}
    (same : SameName first second) :
    endsAtOnce first = endsAtOnce second := by
  simp [Html.endsAtOnce, same.1, same.2]

theorem endsAtOnce_of_isRoot {element : Element}
    (root : isRoot element = true) : endsAtOnce element = false := by
  rw [endsAtOnce, (facts_of_isRoot root).1, Bool.and_false]

/-- The two nodes are not both texts. -/
def Apart (document : Document) (left right : NodeId) : Prop :=
  document.kind? left ≠ some .text ∨ document.kind? right ≠ some .text

/-- Every node but the document node has a parent, no text is empty or follows
another one, and void elements are empty. -/
structure Tidy (document : Document) : Prop where
  outermost : document.parent? Document.root = none
  attached : ∀ id < document.nodeCount, id ≠ Document.root →
    ∃ parent, document.parent? id = some parent
  filled : ∀ id, document.data? id ≠ some (.text "")
  apart : ∀ id, (document.children id).IsChain (Apart document)
  childless : ∀ id element, document.element? id = some element →
    endsAtOnce element = true → document.children id = []

theorem tidy_empty : Tidy .empty where
  outermost := rfl
  attached := by
    intro id inside notRoot
    exact absurd (Nat.lt_one_iff.mp inside) notRoot
  filled := by
    intro id isEmpty
    exact NodeData.noConfusion (Document.data?_empty isEmpty).2
  apart := by
    intro id
    rw [Document.children_empty]
    exact List.isChain_nil
  childless := fun id _ _ _ => Document.children_empty id

/-- A node that may be added at the end of the children of `parent`. -/
structure Extends (document : Document) (parent : NodeId) (data : NodeData) :
    Prop where
  filled : data ≠ .text ""
  apart : data.kind = .text → document.lastText? parent = none
  ample : ∀ element, document.element? parent = some element →
    endsAtOnce element = false

private theorem apart_grown (wellFormed : document.WellFormed)
    (inside : parent < document.nodeCount) {id : NodeId}
    (apart : (document.children id).IsChain (Apart document)) :
    (document.children id).IsChain (Apart (document.grown parent data)) := by
  apply apart.imp_of_mem_imp
  intro left right leftMember rightMember different
  rw [Apart, Document.kind?, Document.kind?,
    Document.data?_grown_of_lt inside (wellFormed.child_lt leftMember),
    Document.data?_grown_of_lt inside (wellFormed.child_lt rightMember)]
  exact different

theorem Tidy.grown (tidy : Tidy document) (wellFormed : document.WellFormed)
    (inside : parent < document.nodeCount)
    (extending : Extends document parent data) :
    Tidy (document.grown parent data) where
  outermost := by
    have first : Document.root < document.nodeCount :=
      Nat.lt_of_le_of_lt (Nat.zero_le parent) inside
    rw [Document.parent?_grown inside, if_neg (Nat.ne_of_lt first)]
    exact tidy.outermost
  attached := by
    intro id within notRoot
    rw [Document.nodeCount_grown] at within
    rw [Document.parent?_grown inside]
    split
    · exact ⟨parent, rfl⟩
    next old =>
      have before := Nat.lt_of_le_of_ne (Nat.le_of_lt_succ within) old
      exact tidy.attached id before notRoot
  filled := by
    intro id
    rw [Document.data?_grown inside]
    split
    · exact fun same => extending.filled (Option.some.inj same)
    · exact tidy.filled id
  apart := by
    intro id
    have old : (document.children id).IsChain
        (Apart (document.grown parent data)) :=
      apart_grown wellFormed inside (tidy.apart id)
    rw [Document.children_grown inside]
    split
    next atParent =>
      rw [List.isChain_append]
      refine ⟨old, List.isChain_singleton _, ?_⟩
      intro last isLast new isNew
      obtain rfl : document.nodeCount = new := Option.some.inj isNew
      have lastInside := wellFormed.child_lt (List.mem_of_getLast? isLast)
      rw [Apart, Document.kind?, Document.kind?,
        Document.data?_grown_of_lt inside lastInside,
        Document.data?_grown inside, if_pos rfl]
      by_cases isText : data.kind = .text
      · refine Or.inl fun lastText => ?_
        have none := extending.apart isText
        obtain ⟨found, present, kind⟩ := Option.map_eq_some_iff.mp lastText
        cases found with
        | text text =>
            rw [atParent] at isLast
            rw [Document.lastText?_eq_some_iff.mpr ⟨isLast, present⟩] at none
            contradiction
        | _ => contradiction
      · exact Or.inr fun newText => isText (Option.some.inj newText)
    next => exact old
  childless := by
    intro id element present ends
    rw [Document.element?_eq_some_iff, Document.data?_grown inside] at present
    rw [Document.children_grown inside]
    split at present
    next fresh =>
      rw [if_neg (fresh ▸ (Nat.ne_of_lt inside).symm)]
      exact Document.WellFormed.children_of_absent (Nat.le_of_eq fresh.symm)
    next =>
      have isElement := Document.element?_eq_some_iff.mpr present
      split
      next atParent =>
        rw [extending.ample element (atParent ▸ isElement)] at ends
        contradiction
      next => exact tidy.childless id element isElement ends

/-- A payload may give way to a similar one. -/
theorem Tidy.setData (tidy : Tidy document) {node : NodeId} {old : NodeData}
    (present : document.data? node = some old) (kind : data.kind = old.kind)
    (filled : data ≠ .text "")
    (childless : ∀ element, data = .element element →
      endsAtOnce element = true → document.children node = []) :
    Tidy (document.setData node data) where
  outermost := by
    rw [Document.parent?_setData]
    exact tidy.outermost
  attached := by
    intro id
    rw [Document.nodeCount_setData, Document.parent?_setData]
    exact tidy.attached id
  filled := by
    intro id
    rw [Document.data?_setData]
    split
    next same =>
      rw [← same, present]
      exact fun isEmpty => filled (Option.some.inj isEmpty)
    next => exact tidy.filled id
  apart := by
    have kinds : (document.setData node data).kind? = document.kind? := by
      funext id
      rw [Document.kind?, Document.kind?, Document.data?_setData]
      split
      next same =>
        rw [← same, present]
        exact congrArg some kind
      next => rfl
    have same : Apart (document.setData node data) = Apart document := by
      funext left right
      rw [Apart, Apart, kinds]
    intro id
    rw [Document.children_setData, same]
    exact tidy.apart id
  childless := by
    intro id element found ends
    rw [Document.children_setData]
    rw [Document.element?_eq_some_iff, Document.data?_setData] at found
    split at found
    next same =>
      subst same
      rw [present] at found
      exact childless element (Option.some.inj found) ends
    next =>
      exact tidy.childless id element
        (Document.element?_eq_some_iff.mpr found) ends

/-- All nodes are reached from the document node. -/
theorem Tidy.mem_descendants (tidy : Tidy document)
    (wellFormed : document.WellFormed) {id : NodeId}
    (inside : id < document.nodeCount) :
    id ∈ document.descendants Document.root := by
  obtain ⟨rank, _, increases⟩ := wellFormed.exists_rank
  have below : ∀ id < document.nodeCount,
      document.InSubtree id Document.root := by
    intro id inside
    generalize height : rank id = levels
    induction levels using Nat.strong_induction_on generalizing id with
    | _ levels induction =>
        by_cases atRoot : id = Document.root
        · rw [atRoot]
          exact .refl
        obtain ⟨parent, hangs⟩ := tidy.attached id inside atRoot
        have smaller : rank parent < levels :=
          height ▸ increases id parent hangs
        have above := induction _ smaller parent
          (wellFormed.parent_lt hangs) rfl
        exact .head hangs above
  rw [Document.descendants_eq_subtree wellFormed,
    wellFormed.mem_subtree_iff]
  exact ⟨Nat.lt_of_le_of_lt (Nat.zero_le id) inside, below id inside⟩

/-! ### Outlines -/

namespace AllOf

variable {fits : NodeData → Bool} {ids : List NodeId}

theorem grown (all : AllOf document fits ids)
    (inside : parent < document.nodeCount) :
    AllOf (document.grown parent data) fits ids := by
  intro id member
  obtain ⟨_, present, _⟩ := (Option.any_eq_true _ _).mp (all id member)
  rw [Document.data?_grown_of_lt inside (Document.lt_of_data?_eq_some present)]
  exact all id member

/-- The nodes together with a new one that is added below `parent`. -/
theorem grown_append (all : AllOf document fits ids)
    (inside : parent < document.nodeCount) (new : fits data = true) :
    AllOf (document.grown parent data) fits (ids ++ [document.nodeCount]) := by
  intro id member
  rcases List.mem_append.mp member with old | isNew
  · exact all.grown inside id old
  · rw [List.mem_singleton.mp isNew, Document.data?_grown inside, if_pos rfl]
    exact new

theorem setData (all : AllOf document fits ids) {node : NodeId}
    (changed : node ∈ ids → fits data = true) :
    AllOf (document.setData node data) fits ids := by
  intro id member
  have present := all id member
  rw [Document.data?_setData]
  split
  next same =>
    obtain ⟨_, present, _⟩ := (Option.any_eq_true _ _).mp present
    rw [present]
    exact changed (same ▸ member)
  next => exact present

end AllOf

/-- Where the outer elements stand in a document, as far as they exist. -/
structure Outline (document : Document) (html head body : Option NodeId) :
    Prop where
  top : ∃ prolog, document.children Document.root = prolog ++ html.toList ∧
    AllOf document isPreamble prolog
  sections : ∀ node, html = some node → ∃ before between,
    document.children node =
        before ++ head.toList ++ between ++ body.toList ∧
      AllOf document isComment before ∧ AllOf document isFiller between ∧
        (head = none → between = [])

theorem outline_empty : Outline .empty none none none where
  top := ⟨[], rfl, nofun⟩
  sections := nofun

namespace Outline

variable {html : NodeId} {head body : Option NodeId}

/-- A node is added elsewhere. -/
theorem elsewhere {html : Option NodeId}
    (outline : Outline document html head body)
    (inside : parent < document.nodeCount) (notRoot : parent ≠ Document.root)
    (notHtml : html ≠ some parent) :
    Outline (document.grown parent data) html head body where
  top := by
    obtain ⟨prolog, children, preamble⟩ := outline.top
    refine ⟨prolog, ?_, preamble.grown inside⟩
    rw [Document.children_grown inside, if_neg notRoot.symm]
    exact children
  sections := by
    rintro node rfl
    obtain ⟨before, between, children, comments, fillers, none⟩ :=
      outline.sections node rfl
    have different : node ≠ parent := fun same => notHtml (congrArg some same)
    refine ⟨before, between, ?_, comments.grown inside, fillers.grown inside,
      none⟩
    rw [Document.children_grown inside, if_neg different]
    exact children

section Top

variable (inside : Document.root < document.nodeCount)

include inside

theorem preamble (outline : Outline document none head body)
    (isPart : isPreamble data = true) :
    Outline (document.grown Document.root data) none head body where
  top := by
    obtain ⟨prolog, children, preamble⟩ := outline.top
    refine ⟨prolog ++ [document.nodeCount], ?_,
      preamble.grown_append inside isPart⟩
    rw [Document.children_grown inside, if_pos rfl, children]
    simp
  sections := nofun

theorem enterHtml (outline : Outline document none none none) :
    Outline (document.grown Document.root data) (some document.nodeCount) none
      none where
  top := by
    obtain ⟨prolog, children, preamble⟩ := outline.top
    refine ⟨prolog, ?_, preamble.grown inside⟩
    rw [Document.children_grown inside, if_pos rfl, children]
    simp
  sections := by
    rintro _ ⟨⟩
    refine ⟨[], [], ?_, nofun, nofun, fun _ => rfl⟩
    rw [Document.children_grown inside, if_neg (Nat.ne_of_lt inside).symm]
    exact Document.WellFormed.children_of_absent (Nat.le_refl _)

end Top

section Sections

variable (inside : html < document.nodeCount) (notRoot : html ≠ Document.root)

include inside notRoot

private theorem top_grown (outline : Outline document (some html) head body) :
    ∃ prolog, (document.grown html data).children Document.root =
        prolog ++ [html] ∧
      AllOf (document.grown html data) isPreamble prolog := by
  obtain ⟨prolog, children, preamble⟩ := outline.top
  refine ⟨prolog, ?_, preamble.grown inside⟩
  rw [Document.children_grown inside, if_neg notRoot.symm]
  exact children

theorem comment (outline : Outline document (some html) none none)
    (isPart : isComment data = true) :
    Outline (document.grown html data) (some html) none none where
  top := outline.top_grown inside notRoot
  sections := by
    rintro _ ⟨⟩
    obtain ⟨before, between, children, comments, fillers, empty⟩ :=
      outline.sections html rfl
    refine ⟨before ++ [document.nodeCount], between, ?_,
      comments.grown_append inside isPart, fillers.grown inside, empty⟩
    rw [Document.children_grown inside, if_pos rfl, children, empty rfl]
    simp

theorem enterHead (outline : Outline document (some html) none none) :
    Outline (document.grown html data) (some html) (some document.nodeCount)
      none where
  top := outline.top_grown inside notRoot
  sections := by
    rintro _ ⟨⟩
    obtain ⟨before, between, children, comments, _, empty⟩ :=
      outline.sections html rfl
    refine ⟨before, [], ?_, comments.grown inside, nofun, nofun⟩
    rw [Document.children_grown inside, if_pos rfl, children, empty rfl]
    simp

theorem filler {head : NodeId}
    (outline : Outline document (some html) (some head) none)
    (isPart : isFiller data = true) :
    Outline (document.grown html data) (some html) (some head) none where
  top := outline.top_grown inside notRoot
  sections := by
    rintro _ ⟨⟩
    obtain ⟨before, between, children, comments, fillers, _⟩ :=
      outline.sections html rfl
    refine ⟨before, between ++ [document.nodeCount], ?_,
      comments.grown inside, fillers.grown_append inside isPart, nofun⟩
    rw [Document.children_grown inside, if_pos rfl, children]
    simp

theorem enterBody {head : NodeId}
    (outline : Outline document (some html) (some head) none) :
    Outline (document.grown html data) (some html) (some head)
      (some document.nodeCount) where
  top := outline.top_grown inside notRoot
  sections := by
    rintro _ ⟨⟩
    obtain ⟨before, between, children, comments, fillers, _⟩ :=
      outline.sections html rfl
    refine ⟨before, between, ?_, comments.grown inside, fillers.grown inside,
      nofun⟩
    rw [Document.children_grown inside, if_pos rfl, children]
    simp

end Sections

/-- A payload changes that is none of the comments and doctypes, and that stays
a filler if it stands below `html`. -/
theorem setData {html : Option NodeId} {node : NodeId} {old : NodeData}
    (outline : Outline document html head body)
    (present : document.data? node = some old) (other : isPreamble old = false)
    (filler : ∀ parent, html = some parent → isFiller old = true →
      node ∈ document.children parent → isFiller data = true) :
    Outline (document.setData node data) html head body where
  top := by
    obtain ⟨prolog, children, preamble⟩ := outline.top
    refine ⟨prolog, (Document.children_setData _).trans children,
      preamble.setData ?_⟩
    intro member
    have isPart := preamble node member
    rw [present, Option.any_some, other] at isPart
    contradiction
  sections := by
    intro parent isHtml
    obtain ⟨before, between, children, comments, fillers, empty⟩ :=
      outline.sections parent isHtml
    refine ⟨before, between, (Document.children_setData _).trans children,
      comments.setData ?_, fillers.setData ?_, empty⟩
    · intro member
      have isPart := comments node member
      rw [present, Option.any_some] at isPart
      cases old with
      | comment text => contradiction
      | _ => contradiction
    · intro member
      have isPart := fillers node member
      rw [present, Option.any_some] at isPart
      exact filler parent isHtml isPart (by simp [children, member])

/-- The head hangs under `html`. -/
theorem parent?_head {head : NodeId}
    (outline : Outline document (some html) (some head) body)
    (wellFormed : document.WellFormed) :
    document.parent? head = some html := by
  obtain ⟨before, between, children, _⟩ := outline.sections html rfl
  rw [← wellFormed.mem_children, children]
  simp

end Outline

end MarkupHarden.Html
