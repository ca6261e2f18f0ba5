import MarkupHarden.Proofs.Html.Moves
import MarkupHarden.Proofs.Html.Grounding
import MarkupHarden.Proofs.Html.Shape

/-!
# Builders whose document is in shape

`Formed` is what a builder keeps of the shape of its document: where the outer
elements stand, which nodes may still get children, and how far everything
lies below `head` and `body`.  An open element lies no deeper than the number of
elements that are open around it, so that the limit on the open elements is one
on the whole tree.  Nodes are added in a `Place` that keeps this so.
-/

namespace MarkupHarden.Html

open Dom (Document Element NodeData NodeId)

namespace Builder

variable {builder : Builder} {parent : NodeId} {data : NodeData}

theorem isWhitespace_append {first second : String}
    (left : isWhitespace first = true) (right : isWhitespace second = true) :
    isWhitespace (first ++ second) = true := by
  rw [isWhitespace, String.toList_append, List.all_append, Bool.and_eq_true]
  exact ⟨left, right⟩

/-- The elements from which levels are counted. -/
def IsSection (builder : Builder) (node : NodeId) : Prop :=
  builder.head = some node ∨ builder.body = some node

/-- The node is at most that many levels below `head` and `body`. -/
def Within (builder : Builder) (bound : Nat) (node : NodeId) : Prop :=
  ∀ top, IsSection builder top → ∀ levels,
    builder.document.LevelsBelow top node levels → levels ≤ bound

/-- A builder whose document has the shape that it must have so far. -/
structure Formed (builder : Builder) : Prop extends Grounded builder where
  positive : 1 ≤ builder.maxDepth
  tidy : Tidy builder.document
  outline : Outline builder.document builder.html builder.head builder.body
  sole : ∀ node element, builder.document.element? node = some element →
    isRoot element = true → IsOuter builder node
  inner : ∀ node ∈ builder.openNodes, builder.html ≠ some node
  ample : ∀ node ∈ builder.openNodes, ∀ element,
    builder.document.element? node = some element → endsAtOnce element = false
  anchored : builder.mode = .inHead →
    builder.openNodes.getLast? = builder.head
  bounded : builder.openNodes.length ≤ builder.maxDepth
  nested : ∀ node rest, node :: rest <:+ builder.openNodes →
    Within builder rest.length node
  shallow : ∀ node, Within builder builder.maxDepth node

/-! ### Places for new nodes -/

/-- A node that can get a child without a void element or the limit being in
the way. -/
structure Place (builder : Builder) (parent : NodeId) : Prop where
  isParent : IsParent builder.document parent
  ample : ∀ element, builder.document.element? parent = some element →
    endsAtOnce element = false
  reaches : ∀ top, IsSection builder top → ∀ levels,
    builder.document.LevelsBelow top parent levels →
      levels < builder.openNodes.length

/-- Anything but text can be added to a place. -/
theorem Place.extending (place : Place builder parent)
    (notText : data.kind ≠ .text) : Extends builder.document parent data where
  filled := by
    rintro rfl
    exact notText rfl
  apart := fun isText => absurd isText notText
  ample := place.ample

/-- A place neither at the top of the document nor directly below `html`. -/
structure InnerPlace (builder : Builder) (parent : NodeId) : Prop extends
    Place builder parent where
  notRoot : parent ≠ Document.root
  notHtml : builder.html ≠ some parent

namespace Formed

theorem lt_of_isSection (formed : Formed builder) {top : NodeId}
    (isSection : IsSection builder top) :
    top < builder.document.nodeCount :=
  formed.lt_of_isParent (formed.isParent_outer (Or.inr isSection))

theorem lt_of_isOpen (formed : Formed builder) {node : NodeId}
    (member : node ∈ builder.openNodes) :
    node < builder.document.nodeCount :=
  formed.lt_of_isParent (formed.isParent_open member)

private theorem not_root_of_element? (formed : Formed builder)
    {element : Element} {node : NodeId}
    (present : builder.document.element? node = some element) :
    node ≠ Document.root := by
  rintro rfl
  cases (Document.element?_eq_some_iff.mp present).symm.trans formed.rooted

theorem ample_outer (formed : Formed builder) {node : NodeId}
    (isOuter : IsOuter builder node) :
    node ≠ Document.root ∧
      ∀ element, builder.document.element? node = some element →
        endsAtOnce element = false := by
  obtain ⟨element, present, root⟩ := formed.outer isOuter
  refine ⟨formed.not_root_of_element? present, ?_⟩
  intro other found
  cases present.symm.trans found
  exact endsAtOnce_of_isRoot root

/-- The document node lies below no other node. -/
private theorem not_below_root (formed : Formed builder) {top : NodeId}
    (isSection : IsSection builder top) {levels : Nat} :
    ¬builder.document.LevelsBelow top Document.root levels := by
  intro below
  cases below with
  | top => exact (formed.ample_outer (Or.inr isSection)).1 rfl
  | child hangs _ =>
      rw [formed.tidy.outermost] at hangs
      contradiction

/-- As long as there is no body, `html` lies below no section. -/
theorem not_below_html (formed : Formed builder) {html top : NodeId}
    (isHtml : builder.html = some html) (noBody : builder.body = none)
    (isSection : IsSection builder top) {levels : Nat} :
    ¬builder.document.LevelsBelow top html levels := by
  intro below
  rcases isSection with isHead | isBody
  · have outline := formed.outline
    rw [isHtml, isHead] at outline
    have hangs : builder.document.HangsUnder top html :=
      outline.parent?_head formed.wellFormed
    exact formed.wellFormed.acyclic top
      (Relation.TransGen.head' hangs below.inSubtree)
  · rw [noBody] at isBody
    contradiction

theorem place_root (formed : Formed builder) :
    Place builder Document.root where
  isParent := Or.inl rfl
  ample := fun _ present =>
    absurd rfl (formed.not_root_of_element? present)
  reaches := fun _ isSection _ below =>
    absurd below (formed.not_below_root isSection)

theorem place_html (formed : Formed builder) {html : NodeId}
    (isHtml : builder.html = some html) (noBody : builder.body = none) :
    Place builder html where
  isParent := formed.isParent_outer (Or.inl isHtml)
  ample := (formed.ample_outer (Or.inl isHtml)).2
  reaches := fun _ isSection _ below =>
    absurd below (formed.not_below_html isHtml noBody isSection)

theorem place_current (formed : Formed builder)
    (current : builder.current? = some parent) : InnerPlace builder parent := by
  obtain ⟨rest, opened⟩ := List.head?_eq_some_iff.mp current
  have member : parent ∈ builder.openNodes := by simp [opened]
  obtain ⟨element, present⟩ := formed.opened parent member
  have nested := formed.nested parent rest (by rw [opened])
  refine ⟨⟨Or.inr ⟨element, present⟩, formed.ample parent member, ?_⟩,
    formed.not_root_of_element? present, formed.inner parent member⟩
  intro top isSection levels below
  rw [opened, List.length_cons]
  exact Nat.lt_succ_of_le (nested top isSection levels below)

theorem html_ne_head (formed : Formed builder) {head : NodeId}
    (isHead : builder.head = some head) : builder.html ≠ some head := by
  intro isHtml
  have same := isHtmlElement_inj (formed.html head isHtml)
    (formed.head head isHead)
  exact absurd same (by decide)

/-- Inside the head some element is open. -/
theorem occupied (formed : Formed builder) (situated : Situated builder)
    (mode : builder.mode = .inHead) : builder.openNodes ≠ [] := by
  intro empty
  obtain ⟨_, ⟨head, isHead⟩, _⟩ := situated.parts_behind_head (Or.inl mode)
  have anchored := formed.anchored mode
  rw [empty, isHead] at anchored
  contradiction

theorem place_host (formed : Formed builder)
    (situated : Situated builder) (hosts : Hosts builder parent) :
    InnerPlace builder parent := by
  rcases hosts with ⟨_, current⟩ | ⟨mode, isHead⟩
  · exact formed.place_current current
  · have isOuter : IsOuter builder parent := Or.inr (Or.inl isHead)
    obtain ⟨notRoot, ample⟩ := formed.ample_outer isOuter
    obtain ⟨_, _, noBody⟩ := situated.parts_behind_head (Or.inl mode)
    refine ⟨⟨formed.isParent_outer isOuter, ample, ?_⟩, notRoot,
      formed.html_ne_head isHead⟩
    intro top isSection levels below
    have same : top = parent := by
      rcases isSection with isTop | isBody
      · exact Option.some.inj (isTop.symm.trans isHead)
      · rw [noBody] at isBody
        contradiction
    rw [same] at below
    rw [below.eq_zero formed.wellFormed]
    exact List.length_pos_iff.mpr (formed.occupied situated mode)

/-! ### Adding nodes -/

private theorem within_grown (formed : Formed builder)
    (inside : parent < builder.document.nodeCount) {bound : Nat}
    {node : NodeId} (old : node ≠ builder.document.nodeCount)
    (within : Within builder bound node) :
    Within { builder with document := builder.document.grown parent data }
      bound node := by
  intro top isSection levels below
  exact within top isSection levels
    (below.of_grown formed.wellFormed inside old)

/-- A new node below a place lies no deeper than the innermost element that is
open, or one level below it. -/
theorem within_new (formed : Formed builder)
    (place : Place builder parent) :
    Within { builder with document := builder.document.grown parent data }
      builder.openNodes.length builder.document.nodeCount := by
  intro top isSection levels below
  have inside := formed.lt_of_isParent place.isParent
  rcases below.of_grown_self formed.wellFormed inside with
    ⟨isNew, _⟩ | ⟨fewer, rfl, above⟩
  · have old := formed.lt_of_isSection isSection
    rw [isNew] at old
    exact absurd old (Nat.lt_irrefl _)
  · exact place.reaches top isSection fewer above

/-- An element that a document has once is an old one or the new node. -/
theorem sole_grown (formed : Formed builder)
    (inside : parent < builder.document.nodeCount) {node : NodeId}
    {element : Element}
    (present : (builder.document.grown parent data).element? node =
      some element)
    (root : isRoot element = true) :
    IsOuter builder node ∨
      (node = builder.document.nodeCount ∧ data = .element element) := by
  rw [Document.element?_eq_some_iff, Document.data?_grown inside] at present
  split at present
  next isNew => exact Or.inr ⟨isNew, Option.some.inj present⟩
  next =>
    have isElement := Document.element?_eq_some_iff.mpr present
    exact Or.inl (formed.sole node element isElement root)

theorem ample_grown (formed : Formed builder)
    (inside : parent < builder.document.nodeCount) {node : NodeId}
    (member : node ∈ builder.openNodes) {element : Element}
    (present : (builder.document.grown parent data).element? node =
      some element) : endsAtOnce element = false := by
  apply formed.ample node member
  rw [Document.element?_grown_of_lt inside (formed.lt_of_isOpen member)]
    at present
  exact present

theorem attach (formed : Formed builder) (place : Place builder parent)
    (extending : Extends builder.document parent data)
    (other : ∀ element, data = .element element → isRoot element = false)
    (outline : Outline (builder.document.grown parent data) builder.html
      builder.head builder.body) :
    Formed { builder with document := builder.document.grown parent data } := by
  have inside := formed.lt_of_isParent place.isParent
  have within : Within
      { builder with document := builder.document.grown parent data }
        builder.openNodes.length builder.document.nodeCount :=
    formed.within_new place
  have old : ∀ node ∈ builder.openNodes, node ≠ builder.document.nodeCount :=
    fun node member => Nat.ne_of_lt (formed.lt_of_isOpen member)
  exact { formed.grown place.isParent data with
    positive := formed.positive
    tidy := formed.tidy.grown formed.wellFormed inside extending
    outline := outline
    sole := by
      intro node element present root
      rcases formed.sole_grown inside present root with isOuter | ⟨_, isData⟩
      · exact isOuter
      · rw [other element isData] at root
        contradiction
    inner := formed.inner
    ample := fun _ member _ present =>
      formed.ample_grown inside member present
    anchored := formed.anchored
    bounded := formed.bounded
    nested := by
      intro node rest suffix
      have member := suffix.subset (List.mem_cons_self)
      exact formed.within_grown inside (old node member)
        (formed.nested node rest suffix)
    shallow := by
      intro node
      by_cases isNew : node = builder.document.nodeCount
      · intro top isSection levels below
        rw [isNew] at below
        exact Nat.le_trans (within top isSection levels below) formed.bounded
      · exact formed.within_grown inside isNew (formed.shallow node) }

/-- Something is added away from the outline. -/
theorem attach_inner (formed : Formed builder)
    (place : InnerPlace builder parent)
    (extending : Extends builder.document parent data)
    (other : ∀ element, data = .element element → isRoot element = false) :
    Formed { builder with document := builder.document.grown parent data } :=
  formed.attach place.toPlace extending other
    (formed.outline.elsewhere (formed.lt_of_isParent place.isParent)
      place.notRoot place.notHtml)

/-! ### Opening and closing -/

/-- A new element that can get children is opened. -/
theorem openNode (formed : Formed builder) {node : NodeId}
    {element : Element}
    (present : builder.document.element? node = some element)
    (ample : endsAtOnce element = false) (notHtml : builder.html ≠ some node)
    (within : Within builder builder.openNodes.length node)
    (occupied : builder.mode = .inHead → builder.openNodes ≠ [])
    (short : builder.openNodes.length < builder.maxDepth) :
    Formed { builder with openNodes := node :: builder.openNodes } where
  toGrounded := { formed.toGrounded with
    opened := by
      intro other member
      rcases List.mem_cons.mp member with rfl | old
      · exact ⟨element, present⟩
      · exact formed.opened other old }
  positive := formed.positive
  tidy := formed.tidy
  outline := formed.outline
  sole := formed.sole
  inner := by
    intro other member
    rcases List.mem_cons.mp member with rfl | old
    · exact notHtml
    · exact formed.inner other old
  ample := by
    intro other member found isFound
    rcases List.mem_cons.mp member with rfl | old
    · cases present.symm.trans isFound
      exact ample
    · exact formed.ample other old found isFound
  anchored := by
    intro mode
    obtain ⟨last, rest, opened⟩ := List.exists_cons_of_ne_nil (occupied mode)
    rw [opened, List.getLast?_cons_cons, ← opened]
    exact formed.anchored mode
  bounded := short
  nested := by
    intro other rest suffix
    rcases List.suffix_cons_iff.mp suffix with same | old
    · cases same
      exact within
    · exact formed.nested other rest old
  shallow := formed.shallow

theorem narrow (formed : Formed builder) {nodes : List NodeId}
    (suffix : nodes <:+ builder.openNodes) {mode : InsertionMode}
    (anchored : mode = .inHead → nodes.getLast? = builder.head) :
    Formed { builder with openNodes := nodes, mode } :=
  { formed with
    opened := fun node member => formed.opened node (suffix.subset member)
    inner := fun node member => formed.inner node (suffix.subset member)
    ample := fun node member => formed.ample node (suffix.subset member)
    anchored := anchored
    bounded := Nat.le_trans suffix.length_le formed.bounded
    nested := fun node rest within =>
      formed.nested node rest (within.trans suffix) }

/-- What is left open after some elements are closed still ends with the
outermost one. -/
theorem getLast?_suffix {nodes : List NodeId}
    (suffix : nodes <:+ builder.openNodes) (notEmpty : nodes ≠ []) :
    nodes.getLast? = builder.openNodes.getLast? := by
  obtain ⟨closed, opened⟩ := suffix
  rw [← opened, List.getLast?_append_of_ne_nil _ notEmpty]

theorem closeInHead (formed : Formed builder)
    (situated : Situated builder) {element : Element}
    (mode : builder.mode = .inHead)
    (current : builder.currentElement? = some element)
    (named : isHeadElement element.localName = true) :
    Formed { builder with openNodes := builder.openNodes.tail } := by
  have anchored := formed.anchored mode
  have notEmpty : builder.openNodes.tail ≠ [] := by
    intro alone
    obtain ⟨node, rest, opened⟩ :=
      List.exists_cons_of_ne_nil (formed.occupied situated mode)
    rw [opened, List.tail_cons] at alone
    rw [opened, alone] at anchored
    -- The only open element is the head, whose name no end tag inside it has.
    obtain ⟨found, present, isNamed⟩ :=
      (Option.any_eq_true _ _).mp (formed.head node anchored.symm)
    rw [currentElement?, current?, opened] at current
    cases present.symm.trans current
    simp only [Element.isHtml, Bool.and_eq_true, decide_eq_true_eq] at isNamed
    rw [isNamed.2] at named
    exact absurd named (by decide)
  have suffix := List.tail_suffix builder.openNodes
  apply formed.narrow suffix
  intro _
  rw [getLast?_suffix suffix notEmpty]
  exact anchored

/-! ### Changing nodes -/

/-- A later document with the same nodes in the same places, and elements of the
same names. -/
private theorem follow (formed : Formed builder) {after : Document}
    (grounded : Grounded { builder with document := after })
    (tidy : Tidy after)
    (outline : Outline after builder.html builder.head builder.body)
    (follows : Follows after builder.document)
    (hangs : ∀ id, after.parent? id = builder.document.parent? id) :
    Formed { builder with document := after } :=
  have within : ∀ {bound node}, Within builder bound node →
      Within { builder with document := after } bound node :=
    fun within top isSection levels below =>
      within top isSection levels (below.of_parent?_eq hangs)
  { grounded with
    positive := formed.positive
    tidy := tidy
    outline := outline
    sole := by
      intro node element present root
      obtain ⟨earlier, found, same⟩ := follows node element present
      exact formed.sole node earlier found (same.isRoot.trans root)
    inner := formed.inner
    ample := by
      intro node member element present
      obtain ⟨earlier, found, same⟩ := follows node element present
      rw [← same.endsAtOnce]
      exact formed.ample node member earlier found
    anchored := formed.anchored
    bounded := formed.bounded
    nested := fun node rest suffix => within (formed.nested node rest suffix)
    shallow := fun node => within (formed.shallow node) }

theorem mergeAttributes (formed : Formed builder) {node : NodeId}
    (isOuter : IsOuter builder node) (attributes : TagAttributes) :
    Formed (builder.mergeAttributes (some node) attributes) := by
  obtain ⟨element, present, root, merged⟩ :=
    formed.mergeAttributes_eq isOuter attributes
  have isElement := Document.element?_eq_some_iff.mp present
  have same := sameName_addAttributes element attributes
  rw [merged]
  apply formed.follow (formed.setData_element present same)
  · apply formed.tidy.setData isElement
    · rfl
    · simp
    · rintro _ ⟨⟩ ends
      rw [same.endsAtOnce, endsAtOnce_of_isRoot root] at ends
      contradiction
  · exact formed.outline.setData isElement rfl nofun
  · intro other changed found
    rw [Document.element?_setData_element present] at found
    split at found
    next atNode =>
      cases found
      exact ⟨element, atNode ▸ present, same.1.symm, same.2.symm⟩
    next => exact ⟨changed, found, rfl, rfl⟩
  · exact Document.parent?_setData

/-- Text is added to a place where it agrees with the outline. -/
theorem attachText (formed : Formed builder)
    (place : Place builder parent) {text : String}
    (outline : Outline (builder.document.grown parent (.text text))
      builder.html builder.head builder.body)
    (blank : builder.html = some parent → isWhitespace text = true) :
    Formed (builder.attachText (some parent) text) := by
  rcases formed.attachText_cases place.isParent text with
    same | ⟨nonempty, noText, same⟩ | ⟨last, old, nonempty, found, same⟩
  · rw [same]
    exact formed
  · rw [same]
    refine formed.attach place ⟨?_, fun _ => noText, place.ample⟩ nofun outline
    exact fun isEmpty => nonempty (NodeData.text.inj isEmpty)
  · obtain ⟨isLast, isText⟩ := Document.lastText?_eq_some_iff.mp found
    have hangs := (formed.wellFormed.mem_children parent last).mp
      (List.mem_of_getLast? isLast)
    rw [same]
    apply formed.follow (formed.setData_text isText _).2
    · apply formed.tidy.setData isText
      · rfl
      · intro isEmpty
        have parts := String.append_eq_empty_iff.mp (NodeData.text.inj isEmpty)
        exact nonempty parts.2
      · nofun
    · apply formed.outline.setData isText rfl
      intro html isHtml oldBlank member
      rw [formed.wellFormed.mem_children, hangs] at member
      exact isWhitespace_append oldBlank (blank (isHtml.trans member.symm))
    · intro node element present
      rw [Document.element?_setData_text isText] at present
      exact ⟨element, present, rfl, rfl⟩
    · exact Document.parent?_setData

end Formed

end Builder

end MarkupHarden.Html
