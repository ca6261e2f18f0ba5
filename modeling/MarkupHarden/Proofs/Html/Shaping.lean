import MarkupHarden.Proofs.Html.Formed
import MarkupHarden.Proofs.Html.Parsed

/-!
# Documents take shape

Every move of a builder keeps its document in shape, from the empty document on.
So `shaped_parseDocument` can say of each document that the bundled parser
accepts where its outer elements stand, how its nodes hang together, and that it
is no deeper than the limit of the parser.
-/

namespace MarkupHarden.Html

open Dom (Document Element NodeData NodeId)

namespace Builder

variable {builder : Builder} {parent : NodeId} {data : NodeData}

namespace Formed

/-! ### Supplying the outer elements -/

private theorem enterHtml (formed : Formed builder)
    (situated : Situated builder) (mode : builder.mode = .beforeHtml) :
    Formed builder.enterHtml := by
  have parts := situated.parts_of_mode mode (by decide)
  rw [HasParts, mode] at parts
  obtain ⟨noHtml, noHead, noBody⟩ := parts
  have place := formed.place_root
  have inside := formed.lt_of_isParent place.isParent
  have grounded := formed.toGrounded.enterHtml
  have outline := formed.outline
  rw [noHtml, noHead, noBody] at outline
  have entered : Outline
      (builder.document.grown Document.root (.element (.html "html")))
      (some builder.document.nodeCount) none none := outline.enterHtml inside
  rw [formed.enterHtml_eq] at grounded ⊢
  have noSection : ∀ top, ¬IsSection builder top := by
    intro top isSection
    rw [IsSection, noHead, noBody] at isSection
    rcases isSection with isHead | isBody <;> contradiction
  exact { grounded with
    positive := formed.positive
    tidy := formed.tidy.grown formed.wellFormed inside
      (place.extending (by simp [NodeData.kind]))
    outline := by
      rw [noHead, noBody]
      exact entered
    sole := by
      intro node element present root
      rcases formed.sole_grown inside present root with earlier | ⟨rfl, _⟩
      · rw [IsOuter, noHtml, noHead, noBody] at earlier
        rcases earlier with html | head | body <;> contradiction
      · exact Or.inl rfl
    inner := by
      rintro node member ⟨⟩
      exact Nat.lt_irrefl _ (formed.lt_of_isOpen member)
    ample := fun _ member _ present =>
      formed.ample_grown inside member present
    anchored := InsertionMode.noConfusion
    bounded := formed.bounded
    nested := fun _ _ _ top isSection => absurd isSection (noSection top)
    shallow := fun _ top isSection => absurd isSection (noSection top) }

/-- Nothing lies deeper than before below the sections when one of them is added
below `html`. -/
private theorem levels_le_of_section (formed : Formed builder)
    {html : NodeId} (isHtml : builder.html = some html)
    (noBody : builder.body = none) {top : NodeId}
    (isSection : IsSection builder top ∨ top = builder.document.nodeCount)
    {id : NodeId} {levels : Nat}
    (below : (builder.document.grown html data).LevelsBelow top id levels) :
    levels ≤ builder.maxDepth ∧
      (id = builder.document.nodeCount → levels = 0) := by
  have inside := formed.lt_of_isParent
    (formed.isParent_outer (Or.inl isHtml))
  by_cases isNew : id = builder.document.nodeCount
  · rw [isNew] at below
    rcases below.of_grown_self formed.wellFormed inside with
      ⟨_, rfl⟩ | ⟨fewer, rfl, above⟩
    · exact ⟨Nat.zero_le _, fun _ => rfl⟩
    · rcases isSection with isSection | isTop
      · exact absurd above (formed.not_below_html isHtml noBody isSection)
      · have same := above.eq_of_absent formed.wellFormed
          (Nat.le_of_eq isTop.symm)
        rw [same, isTop] at inside
        exact absurd inside (Nat.lt_irrefl _)
  · have earlier := below.of_grown formed.wellFormed inside isNew
    rcases isSection with isSection | isTop
    · exact ⟨formed.shallow id top isSection levels earlier,
        fun same => absurd same isNew⟩
    · have same := earlier.eq_of_absent formed.wellFormed
        (Nat.le_of_eq isTop.symm)
      exact absurd (same.trans isTop) isNew

/-- A new section below `html` becomes the only open element. -/
private theorem enterSection (formed : Formed builder) {html : NodeId}
    (isHtml : builder.html = some html) (noBody : builder.body = none)
    {element : Element} (root : isRoot element = true)
    {head body : Option NodeId} {mode : InsertionMode}
    (grounded : Grounded
      { builder with
        document := builder.document.grown html (.element element)
        head, body, openNodes := [builder.document.nodeCount], mode })
    (outline : Outline (builder.document.grown html (.element element))
      builder.html head body)
    (sections : ∀ node, (head = some node ∨ body = some node) ↔
      (IsSection builder node ∨ node = builder.document.nodeCount))
    (anchored : mode = .inHead → head = some builder.document.nodeCount) :
    Formed
      { builder with
        document := builder.document.grown html (.element element)
        head, body, openNodes := [builder.document.nodeCount], mode } := by
  have place := formed.place_html isHtml noBody
  have inside := formed.lt_of_isParent place.isParent
  have isNew := formed.element?_grown_self place.isParent element
  exact { grounded with
    positive := formed.positive
    tidy := formed.tidy.grown formed.wellFormed inside
      (place.extending (by simp [NodeData.kind]))
    outline := outline
    sole := by
      intro node found present isRoot
      rcases formed.sole_grown inside present isRoot with
        (isHere | isSection) | ⟨atNew, _⟩
      · exact Or.inl isHere
      · exact Or.inr ((sections node).mpr (Or.inl isSection))
      · exact Or.inr ((sections node).mpr (Or.inr atNew))
    inner := by
      intro node member isHere
      rw [List.mem_singleton.mp member, isHtml] at isHere
      rw [Option.some.inj isHere] at inside
      exact Nat.lt_irrefl _ inside
    ample := by
      intro node member found present
      rw [List.mem_singleton.mp member] at present
      cases isNew.symm.trans present
      exact endsAtOnce_of_isRoot root
    anchored := fun inHead => (anchored inHead).symm
    bounded := formed.positive
    nested := by
      intro node rest suffix top isSection levels below
      rcases List.suffix_cons_iff.mp suffix with same | none
      · cases same
        have bound := formed.levels_le_of_section isHtml noBody
          ((sections top).mp isSection) below
        exact Nat.le_of_eq (bound.2 rfl)
      · exact absurd (List.suffix_nil.mp none) (List.cons_ne_nil _ _)
    shallow := by
      intro node top isSection levels below
      exact (formed.levels_le_of_section isHtml noBody
        ((sections top).mp isSection) below).1 }

private theorem enterHead (formed : Formed builder)
    (situated : Situated builder) (mode : builder.mode = .beforeHead)
    {html : NodeId} (isHtml : builder.html = some html) :
    Formed (builder.enterHead html) := by
  have parts := situated.parts_of_mode mode (by decide)
  rw [HasParts, mode] at parts
  obtain ⟨_, noHead, noBody⟩ := parts
  have place := formed.place_html isHtml noBody
  have inside := formed.lt_of_isParent place.isParent
  have notRoot := (formed.ample_outer (Or.inl isHtml)).1
  have grounded := formed.toGrounded.enterHead isHtml
  have outline := formed.outline
  rw [isHtml, noHead, noBody] at outline
  rw [formed.enterHead_eq isHtml] at grounded ⊢
  apply formed.enterSection isHtml noBody (by decide) grounded
  · rw [isHtml, noBody]
    exact outline.enterHead inside notRoot
  · intro node
    simp [IsSection, noHead, noBody, eq_comm]
  · exact fun _ => rfl

private theorem enterBody (formed : Formed builder)
    (situated : Situated builder)
    (mode : builder.mode = .inHead ∨ builder.mode = .afterHead)
    {html : NodeId} (isHtml : builder.html = some html) :
    Formed (builder.enterBody html) := by
  obtain ⟨_, ⟨head, isHead⟩, noBody⟩ := situated.parts_behind_head mode
  have place := formed.place_html isHtml noBody
  have inside := formed.lt_of_isParent place.isParent
  have notRoot := (formed.ample_outer (Or.inl isHtml)).1
  have grounded := formed.toGrounded.enterBody isHtml
  have outline := formed.outline
  rw [isHtml, isHead, noBody] at outline
  rw [formed.enterBody_eq isHtml] at grounded ⊢
  apply formed.enterSection isHtml noBody (by decide) grounded
  · rw [isHtml, isHead]
    exact outline.enterBody inside notRoot
  · intro node
    simp [IsSection, noBody, eq_comm]
  · exact InsertionMode.noConfusion

private theorem supply (formed : Formed builder) (situated : Situated builder)
    {after : Builder} (supply : Supply builder after) : Formed after := by
  cases supply with
  | merge _ isOuter _ => exact formed.mergeAttributes isOuter _
  | enterHtml mode => exact formed.enterHtml situated mode
  | enterHead mode isHtml => exact formed.enterHead situated mode isHtml
  | enterBody mode isHtml => exact formed.enterBody situated mode isHtml

private theorem reenterHead (formed : Formed builder)
    (situated : Situated builder) (mode : builder.mode = .afterHead)
    {head : NodeId} (isHead : builder.head = some head) :
    Formed { builder with openNodes := [head], mode := .inHead } := by
  have isOuter : IsOuter builder head := Or.inr (Or.inl isHead)
  obtain ⟨_, _, noBody⟩ := situated.parts_behind_head (Or.inr mode)
  obtain ⟨element, present, _⟩ := formed.outer isOuter
  exact { formed with
    opened := by
      intro node member
      rw [List.mem_singleton.mp member]
      exact ⟨element, present⟩
    inner := by
      intro node member
      rw [List.mem_singleton.mp member]
      exact formed.html_ne_head isHead
    ample := by
      intro node member
      rw [List.mem_singleton.mp member]
      exact (formed.ample_outer isOuter).2
    anchored := fun _ => isHead.symm
    bounded := formed.positive
    nested := by
      intro node rest suffix top isSection levels below
      rcases List.suffix_cons_iff.mp suffix with same | none
      · cases same
        rcases isSection with isTop | isBody
        · cases isHead.symm.trans isTop
          exact Nat.le_of_eq (below.eq_zero formed.wellFormed)
        · cases noBody.symm.trans isBody
      · exact absurd (List.suffix_nil.mp none) (List.cons_ne_nil _ _) }

/-! ### Moves -/

/-- A comment or doctype is added to a place where it agrees with the
outline. -/
private theorem attachPreamble (formed : Formed builder)
    (place : Place builder parent) (isPart : isPreamble data = true)
    (outline : Outline (builder.document.grown parent data)
      builder.html builder.head builder.body) :
    Formed (builder.attach parent data).2 := by
  have kinds : data.kind ≠ .document ∧ data.kind ≠ .text := by
    cases data with
    | doctype name => exact ⟨nofun, nofun⟩
    | comment text => exact ⟨nofun, nofun⟩
    | _ => contradiction
  rw [formed.attach_eq place.isParent kinds.1]
  apply formed.attach place (place.extending kinds.2) ?_ outline
  rintro element rfl
  contradiction

private theorem attachAtTop (formed : Formed builder)
    (situated : Situated builder) (mode : builder.mode = .beforeHtml)
    (isPart : isPreamble data = true) :
    Formed (builder.attach Document.root data).2 := by
  have parts := situated.parts_of_mode mode (by decide)
  rw [HasParts, mode] at parts
  have place := formed.place_root
  have outline := formed.outline
  apply formed.attachPreamble place isPart
  rw [parts.1] at outline ⊢
  exact outline.preamble (formed.lt_of_isParent place.isParent) isPart

/-- A comment in front of the head. -/
private theorem attachBeforeHead (formed : Formed builder)
    (situated : Situated builder) (mode : builder.mode = .beforeHead)
    {html : NodeId} (isHtml : builder.html = some html) (text : String) :
    Formed (builder.attach html (.comment text)).2 := by
  have parts := situated.parts_of_mode mode (by decide)
  rw [HasParts, mode] at parts
  obtain ⟨_, noHead, noBody⟩ := parts
  have place := formed.place_html isHtml noBody
  have inside := formed.lt_of_isParent place.isParent
  have notRoot := (formed.ample_outer (Or.inl isHtml)).1
  have outline := formed.outline
  apply formed.attachPreamble place rfl
  rw [isHtml, noHead, noBody] at outline ⊢
  exact outline.comment inside notRoot rfl

/-- Behind the head, `html` is a place for comments and white space. -/
private theorem place_filler (formed : Formed builder)
    (situated : Situated builder) (mode : builder.mode = .afterHead)
    {html : NodeId} (isHtml : builder.html = some html)
    (isPart : isFiller data = true) :
    Place builder html ∧
      Outline (builder.document.grown html data) builder.html builder.head
        builder.body := by
  obtain ⟨_, ⟨head, isHead⟩, noBody⟩ :=
    situated.parts_behind_head (Or.inr mode)
  have place := formed.place_html isHtml noBody
  have inside := formed.lt_of_isParent place.isParent
  have notRoot := (formed.ample_outer (Or.inl isHtml)).1
  have outline := formed.outline
  rw [isHtml, isHead, noBody] at outline ⊢
  exact ⟨place, outline.filler inside notRoot isPart⟩

/-- What the element of a tag means for the shape of its document. -/
private theorem facts_of_inserts {ns : Dom.Namespace} {name : String}
    {attributes : TagAttributes}
    (inserts : Inserts builder parent ns name attributes) :
    isRoot (elementOf ns name attributes) = false ∧
      ((ns = .html → isVoid name = false) →
        endsAtOnce (elementOf ns name attributes) = false) := by
  rw [elementOf_eq inserts.tag]
  by_cases html : ns = .html
  · have other := inserts.html html
    subst html
    simp only [List.mem_cons, List.not_mem_nil, or_false, not_or] at other
    constructor
    · simp [isRoot, elementSpelling, other]
    · intro notVoid
      simp [endsAtOnce, elementSpelling, notVoid]
  · constructor
    · simp [isRoot, html]
    · intro _
      simp [endsAtOnce, html]

private theorem attachElement (formed : Formed builder)
    (situated : Situated builder) {ns : Dom.Namespace} {name : String}
    {attributes : TagAttributes}
    (inserts : Inserts builder parent ns name attributes) :
    builder.attach parent (.element (elementOf ns name attributes)) =
        (builder.document.nodeCount,
          { builder with
            document := builder.document.grown parent
              (.element (elementOf ns name attributes)) }) ∧
      Formed
        { builder with
          document := builder.document.grown parent
            (.element (elementOf ns name attributes)) } := by
  have place := formed.place_host situated inserts.hosts
  constructor
  · exact formed.attach_eq place.isParent (by simp [NodeData.kind])
  · apply formed.attach_inner place
      (place.extending (by simp [NodeData.kind]))
    rintro _ ⟨⟩
    exact (facts_of_inserts inserts).1

theorem shift (formed : Formed builder) (situated : Situated builder)
    {after : Builder} (shift : Shift builder after) : Formed after := by
  cases shift with
  | supply supply => exact formed.supply situated supply
  | close suffix notEmpty =>
      apply formed.narrow suffix
      intro mode
      rw [getLast?_suffix suffix notEmpty]
      exact formed.anchored mode
  | stray name => exact { formed with }
  | doctype _ mode => exact formed.attachAtTop situated mode rfl
  | @comment parent text position _ =>
      have isPart : isFiller (.comment text) = true := rfl
      rcases position with ⟨mode, rfl⟩ | ⟨mode, isHtml⟩ | ⟨mode, isHtml⟩ | hosts
      · exact formed.attachAtTop situated mode rfl
      · exact formed.attachBeforeHead situated mode isHtml _
      · obtain ⟨place, outline⟩ :=
          formed.place_filler situated mode isHtml isPart
        exact formed.attachPreamble place rfl outline
      · have place := formed.place_host situated hosts
        exact formed.attachPreamble place.toPlace rfl
          (formed.outline.elsewhere (formed.lt_of_isParent place.isParent)
            place.notRoot place.notHtml)
  | @text parent text position =>
      have place : InnerPlace builder parent := by
        rcases position with ⟨_, current, _⟩ | ⟨hosts, _⟩
        · exact formed.place_current current
        · exact formed.place_host situated hosts
      apply formed.attachText place.toPlace
      · exact formed.outline.elsewhere (formed.lt_of_isParent place.isParent)
          place.notRoot place.notHtml
      · exact fun isHtml => absurd isHtml place.notHtml
  | @space html text mode isHtml blank =>
      have isPart : isFiller (.text text) = true := blank
      obtain ⟨place, outline⟩ :=
        formed.place_filler situated mode isHtml isPart
      exact formed.attachText place outline fun _ => blank
  | leaf inserts _ =>
      obtain ⟨attached, later⟩ := formed.attachElement situated inserts
      rw [attached]
      exact later
  | flatten inserts _ _ =>
      obtain ⟨attached, later⟩ := formed.attachElement situated inserts
      rw [attached]
      exact { later with }
  | closeInHead mode current named =>
      exact formed.closeInHead situated mode current named
  | leaveHead _ suffix =>
      exact formed.narrow suffix InsertionMode.noConfusion
  | reenterHead mode isHead => exact formed.reenterHead situated mode isHead

theorem opening (formed : Formed builder) (situated : Situated builder)
    {switch : Option TextSwitch} {after : Builder}
    (opening : Opening builder switch after) : Formed after := by
  cases opening with
  | @opened parent ns name attributes inserts notVoid short =>
      have place := formed.place_host situated inserts.hosts
      obtain ⟨attached, later⟩ := formed.attachElement situated inserts
      have isNew := formed.element?_grown_self place.isParent
        (elementOf ns name attributes)
      rw [attached]
      apply later.openNode isNew ((facts_of_inserts inserts).2 notVoid) ?_
        (formed.within_new place.toPlace) ?_ short
      · intro isHtml
        exact absurd (formed.lt_of_isParent
          (formed.isParent_outer (Or.inl isHtml))) (Nat.lt_irrefl _)
      · exact fun mode => formed.occupied situated mode

/-! ### Parsed documents -/

/-- An HTML element that is called like an outer one is the outer one. -/
theorem eq_outer (formed : Formed builder) {id : NodeId} {name : String}
    (member : name ∈ ["html", "head", "body"])
    (named : builder.document.isHtmlElement id name = true) :
    (name = "html" ∧ builder.html = some id) ∨
      (name = "head" ∧ builder.head = some id) ∨
        (name = "body" ∧ builder.body = some id) := by
  obtain ⟨element, present, isNamed⟩ := (Option.any_eq_true _ _).mp named
  rcases formed.sole id element present (isRoot_of_isHtml member isNamed) with
    isHtml | isHead | isBody
  · exact Or.inl ⟨isHtmlElement_inj named (formed.html id isHtml), isHtml⟩
  · have same := isHtmlElement_inj named (formed.head id isHead)
    exact Or.inr (Or.inl ⟨same, isHead⟩)
  · have same := isHtmlElement_inj named (formed.body id isBody)
    exact Or.inr (Or.inr ⟨same, isBody⟩)

/-- A text-only element holds one text at most. -/
private theorem textOnly_of_stands {document : Document} {id : NodeId}
    {element : Element} (stands : Stands document id)
    (present : document.element? id = some element) (html : element.ns = .html)
    (member : element.localName ∈ "plaintext" :: textOnlyElements) :
    document.children id = [] ∨ ∃ child text,
      document.children id = [child] ∧
        document.data? child = some (.text text) ∧
          (element.localName ∉ ["plaintext", "textarea", "title"] →
            ¬HoldsEndTag element.localName.toList text.toList) := by
  have modes : ∀ name ∈ "plaintext" :: textOnlyElements,
      ∃ mode, textModeOf? name = some mode ∧
        (name ∉ ["plaintext", "textarea", "title"] → mode = .verbatim) := by
    decide
  obtain ⟨mode, isMode, verbatim⟩ := modes element.localName member
  have isSwitch : textSwitch? element =
      some { mode, tag := element.localName } :=
    textSwitch?_eq_some_iff.mpr ⟨html, rfl, isMode⟩
  rcases stands.holdsTextAt present _ isSwitch with
    empty | ⟨child, text, single, isText, raw⟩
  · exact Or.inl empty
  · exact Or.inr ⟨child, text, single, isText, fun other => raw (verbatim other)⟩

/-- A finished document has its shape. -/
theorem shaped (formed : Formed builder)
    (stands : ∀ id, Stands builder.document id) {html head body : NodeId}
    (isHtml : builder.html = some html) (isHead : builder.head = some head)
    (isBody : builder.body = some body) :
    Shaped builder.maxDepth builder.document html head body where
  rooted := formed.rooted
  top := by
    have outline := formed.outline
    rw [isHtml] at outline
    exact outline.top
  sections := by
    obtain ⟨before, between, children, comments, fillers, _⟩ :=
      formed.outline.sections html isHtml
    rw [isHead, isBody] at children
    exact ⟨before, between, children, comments, fillers⟩
  isHtml := by
    intro id
    constructor
    · intro named
      rcases formed.eq_outer (by simp) named with
        ⟨_, same⟩ | ⟨other, _⟩ | ⟨other, _⟩
      · exact Option.some.inj (same.symm.trans isHtml)
      · exact absurd other (by decide)
      · exact absurd other (by decide)
    · rintro rfl
      exact formed.html id isHtml
  isHead := by
    intro id
    constructor
    · intro named
      rcases formed.eq_outer (by simp) named with
        ⟨other, _⟩ | ⟨_, same⟩ | ⟨other, _⟩
      · exact absurd other (by decide)
      · exact Option.some.inj (same.symm.trans isHead)
      · exact absurd other (by decide)
    · rintro rfl
      exact formed.head id isHead
  isBody := by
    intro id
    constructor
    · intro named
      rcases formed.eq_outer (by simp) named with
        ⟨other, _⟩ | ⟨other, _⟩ | ⟨_, same⟩
      · exact absurd other (by decide)
      · exact absurd other (by decide)
      · exact Option.some.inj (same.symm.trans isBody)
    · rintro rfl
      exact formed.body id isBody
  connected := fun _ inside =>
    formed.tidy.mem_descendants formed.wellFormed inside
  filled := formed.tidy.filled
  apart := by
    intro left right next
    obtain ⟨parent, before, after, children⟩ :=
      formed.wellFormed.nextSibling?_eq_some_iff.mp next
    have apart := formed.tidy.apart parent
    rw [children, List.isChain_append_cons_cons] at apart
    exact apart.2.1
  childless := by
    intro id element present html void
    apply formed.tidy.childless id element present
    rw [endsAtOnce, isVoid, html, List.contains_iff_mem.mpr void]
    rfl
  textOnly := fun id _ present html member =>
    textOnly_of_stands (stands id) present html member
  shallow := by
    intro top member id levels below
    have isSection : IsSection builder top := by
      rcases List.mem_cons.mp member with rfl | last
      · exact Or.inl isHead
      · rw [List.mem_singleton.mp last]
        exact Or.inr isBody
    exact formed.shallow id top isSection levels below

end Formed

/-- Every move keeps the shape. -/
theorem lasting_formed :
    Lasting fun builder => Situated builder ∧ Formed builder where
  shift := fun _ _ shift ⟨situated, formed⟩ =>
    ⟨situated.shift shift, formed.shift situated shift⟩
  opening := fun _ _ _ opening ⟨situated, formed⟩ =>
    ⟨situated.opening opening, formed.opening situated opening⟩

theorem formed_forDocument {limit : Nat} (positive : 1 ≤ limit) :
    Formed (forDocument limit) where
  toGrounded := grounded_forDocument limit
  positive := positive
  tidy := tidy_empty
  outline := outline_empty
  sole := by
    intro node element present
    have isElement := Document.element?_eq_some_iff.mp present
    cases (Document.data?_empty isElement).2
  inner := nofun
  ample := nofun
  anchored := InsertionMode.noConfusion
  bounded := Nat.zero_le limit
  nested := by
    intro node rest suffix
    exact absurd (List.suffix_nil.mp suffix) (List.cons_ne_nil _ _)
  shallow := by
    intro node top isSection
    rcases isSection with isHead | isBody <;> contradiction

/-- A document that was built to the end has its shape. -/
theorem shaped_run {limit : Nat} (positive : 1 ≤ limit) {markup : String}
    (goesOn : ((forDocument limit).run markup).isStopped = false) :
    ∃ html head body, Shaped limit ((forDocument limit).run markup).document
      html head body := by
  have situated := situated_forDocument limit
  have formed := (lasting_formed.run situated
    ⟨situated, formed_forDocument positive⟩ markup).2
  have sound := (steady_forDocument limit).run situated markup
  obtain ⟨⟨html, isHtml⟩, ⟨head, isHead⟩, ⟨body, isBody⟩⟩ :=
    parts_of_run situated rfl goesOn
  have shaped := formed.shaped sound.stands isHtml isHead isBody
  rw [sound.maxDepth] at shaped
  exact ⟨html, head, body, shaped⟩

end Builder

namespace HtmlParser

open Builder

/-- Whatever the markup, a document that is parsed from it has its shape. -/
theorem shaped_parseDocument {parser : HtmlParser} {markup : String}
    {document : Document} (positive : 1 ≤ parser.maxDepth)
    (parsed : (parser.parseDocument markup).value = .ok document) :
    ∃ html head body, Shaped parser.maxDepth document html head body := by
  obtain ⟨rfl, goesOn⟩ := eq_run_of_parseDocument parsed
  exact shaped_run positive goesOn

/-- Markup that puts a void element three levels below the body. -/
def nestedMarkup : String :=
  "<!doctype html><!--a--><title>b</title> <p>c<i>d<br>e</p></i>"

theorem shaped_parseDocument_nested :
    1 ≤ ({ maxDepth := 3 } : HtmlParser).maxDepth ∧
      ∃ document html head body,
        (({ maxDepth := 3 } : HtmlParser).parseDocument nestedMarkup).value =
            .ok document ∧
          Shaped 3 document html head body := by
  have accepted : (({ maxDepth := 3 } : HtmlParser).parseDocument
      nestedMarkup).value.isOk = true := by
    decide +kernel
  cases parsed :
      (({ maxDepth := 3 } : HtmlParser).parseDocument nestedMarkup).value with
  | error fault =>
      rw [parsed] at accepted
      contradiction
  | ok document =>
      obtain ⟨html, head, body, shaped⟩ :=
        shaped_parseDocument (by decide) parsed
      exact ⟨by decide, document, html, head, body, rfl, shaped⟩

end HtmlParser

end MarkupHarden.Html
