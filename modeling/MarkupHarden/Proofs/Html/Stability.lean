import MarkupHarden.Proofs.Html.HeadContent
import MarkupHarden.Proofs.Html.Page

/-!
# Reading parsed documents back

A parsed document can hold elements that their own tags would move: end tags
supply paragraphs inside SVG and MathML, nothing behind an open `plaintext` is
read as markup, and a start tag may leave elements open that it closes when it
is read again.  A parsed document without such elements is a page, and so it is
read back from its markup.
-/

namespace MarkupHarden.Html

open Dom (Document Element NodeData NodeId Tree)

/-! ### Elements that keep their place -/

/-- The tags of an element put it back where it is.  Of the conditions of
`Stays` these are the ones that not every parsed document meets. -/
@[mk_iff]
structure KeepsPlace (elements : List Element) (element : Element) : Prop where
  html : element.ns = .html →
    expectsForeign elements = false ∧ element.localName ≠ "plaintext" ∧
      Builder.Settled elements element.localName
  foreign : element.ns ≠ .html → Text.lower element.localName ≠ "html"

instance (elements : List Element) (element : Element) :
    Decidable (KeepsPlace elements element) :=
  decidable_of_iff' _ (keepsPlace_iff elements element)

mutual

/-- Every element of the tree keeps its place below the open elements. -/
def isUnmoved (elements : List Element) : Tree → Bool
  | .node (.element element) children =>
      decide (KeepsPlace elements element) &&
        areUnmoved (element :: elements) children
  | _ => true

/-- Every element of the trees keeps its place. -/
def areUnmoved (elements : List Element) : List Tree → Bool
  | [] => true
  | tree :: rest => isUnmoved elements tree && areUnmoved elements rest

end

/-- Every element in the body keeps its place. -/
def Settles (document : Document) : Prop :=
  ∀ body < document.nodeCount, document.isHtmlElement body "body" = true →
    areUnmoved [] (document.forest body) = true

instance (document : Document) : Decidable (Settles document) :=
  inferInstanceAs (Decidable (∀ body < document.nodeCount,
    document.isHtmlElement body "body" = true →
      areUnmoved [] (document.forest body) = true))

private theorem isUnmoved_of_mem {elements : List Element} {trees : List Tree}
    (unmoved : areUnmoved elements trees = true) :
    ∀ tree ∈ trees, isUnmoved elements tree = true := by
  induction trees with
  | nil => nofun
  | cons tree rest induction =>
      rw [areUnmoved, Bool.and_eq_true] at unmoved
      exact List.forall_mem_cons.mpr ⟨unmoved.1, induction unmoved.2⟩

private theorem faithfulAll_of_isChain {elements : List Element}
    {trees : List Tree} (faithful : ∀ tree ∈ trees, Faithful elements tree)
    (apart : trees.IsChain fun left right =>
      left.isText = true → right.isText = false) :
    FaithfulAll elements trees := by
  induction trees with
  | nil => trivial
  | cons tree rest induction =>
      refine ⟨faithful tree List.mem_cons_self, ?_,
        induction (fun other member =>
          faithful other (List.mem_cons_of_mem _ member)) apart.of_cons⟩
      intro isText
      cases rest with
      | nil => rfl
      | cons next rest => exact (List.isChain_cons_cons.mp apart).1 isText

/-- The element is the innermost of the open ones, or the body around them. -/
private def Encloses (outer : Element) (elements : List Element) : Prop :=
  elements.head? = some outer ∨
    (elements = [] ∧ holdsForeignContent outer = false)

private theorem expectsForeign_of_encloses {outer : Element}
    {elements : List Element} (encloses : Encloses outer elements) :
    expectsForeign elements = holdsForeignContent outer := by
  rcases encloses with first | ⟨rfl, ordinary⟩
  · rw [expectsForeign, first]
    rfl
  · rw [ordinary]
    rfl

/-- An element that belongs where it is stays there if it keeps its place. -/
private theorem stays_of_belongs {outer element : Element}
    {elements : List Element} (belongs : Belongs (some outer) element)
    (inner : isRoot element = false) (encloses : Encloses outer elements)
    (keeps : KeepsPlace elements element) : Stays elements element := by
  have same := expectsForeign_of_encloses encloses
  by_cases html : element.ns = .html
  · obtain ⟨ordinary, notPlaintext, settled⟩ := keeps.html html
    have name := belongs.name html
    refine .html html ordinary ?_ settled
    simp only [isRoot, html, decide_true, Bool.true_and, List.contains_iff_mem,
      Bool.eq_false_iff, ne_eq, List.mem_cons, List.not_mem_nil, or_false,
      not_or] at inner name ⊢
    exact ⟨inner.1, inner.2.2, inner.2.1, name.2.2, name.1, name.2.1,
      notPlaintext⟩
  · cases foreign : holdsForeignContent outer with
    | false =>
        exact .entry html (same.trans foreign) (belongs.entry html foreign)
    | true =>
        obtain ⟨sameNs, stays⟩ := belongs.foreign html foreign
        have first : elements.head? = some outer := by
          rcases encloses with first | ⟨_, ordinary⟩
          · exact first
          · rw [foreign] at ordinary
            contradiction
        refine .foreign html (same.trans foreign) ?_ stays (keeps.foreign html)
        rw [first]
        exact sameNs

/-! ### Content of a parsed document -/

section

variable {document : Document} {limit : Nat} {html head body : NodeId}
  (parsed : IsParsed document) (shaped : Shaped limit document html head body)

private theorem isFiller_of_isComment {ids : List NodeId}
    (comments : AllOf document isComment ids) :
    AllOf document isFiller ids := by
  intro id member
  obtain ⟨data, present, comment⟩ :=
    (Option.any_eq_true _ _).mp (comments id member)
  rw [present]
  cases data with
  | comment text => rfl
  | _ => contradiction

include parsed

private theorem isText_tree {id : NodeId}
    (isText : (document.tree id).isText = true) :
    document.kind? id = some .text := by
  rw [parsed.wellFormed.tree_eq] at isText
  rw [Document.kind?]
  cases present : document.data? id with
  | none =>
      rw [present] at isText
      contradiction
  | some data =>
      rw [present, Option.getD_some] at isText
      cases data with
      | text text => rfl
      | _ => contradiction

/-- What is known of a node below another one. -/
private theorem exists_payload {parent child : NodeId}
    (member : child ∈ document.children parent) :
    ∃ data, document.data? child = some data ∧
      FitsBelow (document.element? parent) data := by
  have hangs := (parsed.wellFormed.mem_children parent child).mp member
  obtain ⟨data, present⟩ :=
    Document.exists_data_of_lt (parsed.wellFormed.child_lt member)
  refine ⟨data, present, ?_⟩
  rcases parsed.stands child data present with ⟨_, none⟩ | ⟨fits, _⟩
  · rw [hangs] at none
    contradiction
  · rw [parentElement?, hangs] at fits
    exact fits

/-- Two neighbouring trees are not both texts. -/
private theorem isChain_map_tree {ids : List NodeId}
    (apart : ids.IsChain (Apart document)) :
    (ids.map document.tree).IsChain fun left right =>
      left.isText = true → right.isText = false := by
  rw [List.isChain_map]
  apply apart.imp
  intro left right different isText
  rw [Bool.eq_false_iff]
  intro alsoText
  rcases different with notText | notText
  · exact notText (isText_tree parsed isText)
  · exact notText (isText_tree parsed alsoText)

include shaped

private theorem apart_children (id : NodeId) :
    (document.children id).IsChain (Apart document) := by
  rw [List.isChain_iff_forall_rel_of_append_cons_cons]
  intro left right before after children
  exact shaped.apart left right (parsed.wellFormed.nextSibling?_eq_some_iff.mpr
    ⟨id, before, after, children⟩)

private theorem fitsContent_forest {id : NodeId} {element : Element}
    (present : document.element? id = some element)
    (isHtml : element.ns = .html) :
    FitsContent element.localName (document.forest id) where
  void := by
    intro void
    rw [Document.forest, shaped.childless id element present isHtml
      (List.contains_iff_mem.mp void)]
    rfl
  text := by
    intro mode isMode
    have isSwitch : textSwitch? element =
        some { mode, tag := element.localName } :=
      textSwitch?_eq_some_iff.mpr ⟨isHtml, rfl, isMode⟩
    rcases (parsed.stands id).holdsTextAt present _ isSwitch with
      empty | ⟨child, text, single, isText, raw⟩
    · left
      rw [Document.forest, empty]
      rfl
    · refine Or.inr ⟨text, ?_, raw⟩
      rw [Document.forest, single, List.map_singleton,
        parsed.wellFormed.tree_eq_leaf isText rfl]

/-! ### The body -/

/-- Below an element that is not `html`, elements that keep their places are
read back. -/
private theorem faithfulAll_forest (id : NodeId) :
    ∀ (outer : Element) (elements : List Element),
      document.element? id = some outer → outer.isHtml "html" = false →
      Encloses outer elements → areUnmoved elements (document.forest id) = true →
        FaithfulAll elements (document.forest id) := by
  refine parsed.wellFormed.induction_below (motive := fun id =>
    ∀ (outer : Element) (elements : List Element),
      document.element? id = some outer → outer.isHtml "html" = false →
      Encloses outer elements → areUnmoved elements (document.forest id) = true →
        FaithfulAll elements (document.forest id)) ?_ id
  intro id induction outer elements present notHtml encloses unmoved
  refine faithfulAll_of_isChain ?_
    (isChain_map_tree parsed (apart_children parsed shaped id))
  intro tree isTree
  obtain ⟨child, member, rfl⟩ := List.mem_map.mp isTree
  have keeps := isUnmoved_of_mem unmoved _ isTree
  obtain ⟨data, isData, fits⟩ := exists_payload parsed member
  rw [present] at fits
  rw [parsed.wellFormed.tree_eq, isData, Option.getD_some] at keeps ⊢
  have leaf : data.canHoldChildren = false → document.forest child = [] := by
    intro leaf
    rw [Document.forest, parsed.wellFormed.childless child data isData leaf]
    rfl
  cases data with
  | element element =>
      have belongs : Belongs (some outer) element := fits
      have isElement := Document.element?_eq_some_iff.mpr isData
      have inner : isRoot element = false := by
        rw [Bool.eq_false_iff]
        intro root
        have isHtml := belongs.root root outer rfl
        rw [notHtml] at isHtml
        contradiction
      have innerName : element.isHtml "html" = false := by
        rw [Bool.eq_false_iff]
        intro isHtml
        rw [Builder.isRoot_of_isHtml (by simp) isHtml] at inner
        contradiction
      rw [isUnmoved, Bool.and_eq_true, decide_eq_true_eq] at keeps
      exact ⟨belongs.spelled, stays_of_belongs belongs inner encloses keeps.1,
        fitsContent_forest parsed shaped isElement,
        induction child member element _ isElement innerName (Or.inl rfl)
          keeps.2⟩
  | text text =>
      refine ⟨?_, leaf rfl⟩
      rintro rfl
      exact shaped.filled child isData
  | comment text => exact ⟨fits, leaf rfl⟩
  | doctype name => cases fits.1
  | document => exact fits.elim
  | processingInstruction target data => exact fits.elim

/-! ### Around the body -/

omit shaped in
private theorem isPart_of_isLeaf {mode : InsertionMode} {id : NodeId}
    {data : NodeData} (present : document.data? id = some data)
    (leaf : IsLeaf mode data) : IsPart mode (document.tree id) := by
  have childless : data.canHoldChildren = false := by
    cases leaf <;> rfl
  rw [parsed.wellFormed.tree_eq_leaf present childless]
  exact .leaf leaf

omit shaped in
private theorem parts_map {mode : InsertionMode} {ids : List NodeId}
    (apart : ids.IsChain (Apart document))
    (part : ∀ id ∈ ids, IsPart mode (document.tree id)) :
    Parts mode (ids.map document.tree) where
  all := by
    intro tree isTree
    obtain ⟨id, member, rfl⟩ := List.mem_map.mp isTree
    exact part id member
  apart := isChain_map_tree parsed apart

omit shaped in
/-- What stands in front of `html` is read back. -/
private theorem isPart_of_isPreamble {id : NodeId}
    (member : id ∈ document.children Document.root)
    (preamble : (document.data? id).any isPreamble = true) :
    IsPart .beforeHtml (document.tree id) := by
  obtain ⟨data, present, fits⟩ := exists_payload parsed member
  rw [present, Option.any_some] at preamble
  apply isPart_of_isLeaf parsed present
  cases data with
  | doctype name => exact .doctype rfl fits.2
  | comment text => exact .comment fits
  | _ => contradiction

/-- White space and comments are read back where they may stand. -/
private theorem isPart_of_isFiller {mode : InsertionMode} {parent id : NodeId}
    (member : id ∈ document.children parent)
    (filler : (document.data? id).any isFiller = true)
    (blanks : mode = .inHead ∨ mode = .afterHead ∨
      (document.data? id).any isComment = true) :
    IsPart mode (document.tree id) := by
  obtain ⟨data, present, fits⟩ := exists_payload parsed member
  rw [present, Option.any_some] at filler blanks
  apply isPart_of_isLeaf parsed present
  cases data with
  | comment text => exact .comment fits
  | text text =>
      rw [← or_assoc] at blanks
      refine .blank (blanks.resolve_right (by simp [isComment])) ?_ filler
      rintro rfl
      exact shaped.filled id present
  | _ => contradiction

/-- Below an element of the head there is at most one text. -/
private theorem holdsTextAtMost_forest (holds : HeadHolds document head)
    {id : NodeId} (hangs : document.parent? id = some head) :
    HoldsTextAtMost (document.forest id) := by
  have isText : ∀ child ∈ document.children id,
      ∃ text, document.data? child = some (.text text) := by
    intro child member
    exact holds.texts id hangs child
      ((parsed.wellFormed.mem_children id child).mp member)
  have isKind : ∀ child ∈ document.children id,
      document.kind? child = some .text := by
    intro child member
    obtain ⟨text, present⟩ := isText child member
    rw [Document.kind?, present]
    rfl
  have apart := apart_children parsed shaped id
  cases children : document.children id with
  | nil =>
      left
      rw [Document.forest, children]
      rfl
  | cons child rest =>
      rw [children] at isText isKind apart
      cases rest with
      | nil =>
          obtain ⟨text, present⟩ := isText child List.mem_cons_self
          refine Or.inr ⟨text, ?_, ?_⟩
          · rintro rfl
            exact shaped.filled child present
          · rw [Document.forest, children, List.map_singleton,
              parsed.wellFormed.tree_eq_leaf present rfl]
      | cons next rest =>
          rcases (List.isChain_cons_cons.mp apart).1 with notText | notText
          · exact absurd (isKind child (by simp)) notText
          · exact absurd (isKind next (by simp)) notText

/-- What stands in the head is read back. -/
private theorem isPart_of_mem_head (holds : HeadHolds document head)
    {id : NodeId} (member : id ∈ document.children head) :
    IsPart .inHead (document.tree id) := by
  have hangs := (parsed.wellFormed.mem_children head id).mp member
  have content := holds.content id hangs
  obtain ⟨data, present, fits⟩ := exists_payload parsed member
  have isElement : ∀ element, data = .element element →
      IsPart .inHead (document.tree id) := by
    rintro element rfl
    rw [present, Option.any_some, isHeadContent, Bool.and_eq_true,
      decide_eq_true_eq] at content
    have belongs : Belongs (document.element? head) element := fits
    rw [parsed.wellFormed.tree_eq, present]
    exact .element rfl belongs.spelled content.1 content.2
      (fitsContent_forest parsed shaped
        (Document.element?_eq_some_iff.mpr present) content.1)
      (holdsTextAtMost_forest parsed shaped holds hangs)
  rw [present, Option.any_some] at content
  have filler : ∀ isFilling : isFiller data = true,
      IsPart .inHead (document.tree id) := fun isFilling =>
    isPart_of_isFiller parsed shaped member
      (by rw [present]; exact isFilling) (Or.inl rfl)
  cases data with
  | element element => exact isElement element rfl
  | text text => exact filler content
  | comment text => exact filler rfl
  | _ => contradiction

omit shaped in
/-- The start tag of an outer element is read back. -/
private theorem exists_outerElement {id : NodeId} {name : String}
    (named : document.isHtmlElement id name = true) :
    ∃ element, document.element? id = some element ∧
      document.tree id = .node (.element element) (document.forest id) ∧
        IsOuterElement name element := by
  obtain ⟨element, present, isNamed⟩ := (Option.any_eq_true _ _).mp named
  have payload := Document.element?_eq_some_iff.mp present
  have belongs : Belongs (parentElement? document id) element :=
    (parsed.stands id).fits payload (by simp)
  simp only [Element.isHtml, Bool.and_eq_true, decide_eq_true_eq] at isNamed
  refine ⟨element, present, ?_, belongs.spelled, isNamed.1, isNamed.2⟩
  rw [parsed.wellFormed.tree_eq, payload]
  rfl

/-! ### Heights -/

omit shaped in
private theorem heightAll_forest_le {top : NodeId} {bound : Nat}
    (shallow : ∀ id levels, document.LevelsBelow top id levels →
      levels ≤ bound) (id : NodeId) :
    ∀ levels, document.LevelsBelow top id levels →
      heightAll (document.forest id) + levels ≤ bound := by
  refine parsed.wellFormed.induction_below (motive := fun id =>
    ∀ levels, document.LevelsBelow top id levels →
      heightAll (document.forest id) + levels ≤ bound) ?_ id
  intro id induction levels below
  have most := shallow id levels below
  have low : heightAll (document.forest id) ≤ bound - levels := by
    apply heightAll_le
    intro tree isTree
    obtain ⟨child, member, rfl⟩ := List.mem_map.mp isTree
    have hangs := (parsed.wellFormed.mem_children id child).mp member
    have rest := induction child member (levels + 1) (.child hangs below)
    rw [parsed.wellFormed.tree_eq]
    cases (document.data? child).getD .document with
    | element element =>
        rw [height]
        omega
    | _ => exact Nat.zero_le _
  omega

private theorem heightAll_section_le {top : NodeId}
    (isSection : top ∈ [head, body]) :
    heightAll (document.forest top) ≤ limit :=
  heightAll_forest_le parsed (shaped.shallow top isSection) top 0 .top

omit shaped in
private theorem heightAll_fillers {ids : List NodeId}
    (fillers : AllOf document isFiller ids) :
    heightAll (ids.map document.tree) = 0 := by
  apply Nat.le_zero.mp
  apply heightAll_le
  intro tree isTree
  obtain ⟨id, member, rfl⟩ := List.mem_map.mp isTree
  obtain ⟨data, present, filler⟩ :=
    (Option.any_eq_true _ _).mp (fillers id member)
  rw [parsed.wellFormed.tree_eq, present, Option.getD_some]
  cases data with
  | text text => exact Nat.le_refl 0
  | comment text => exact Nat.le_refl 0
  | _ => contradiction

/-! ### Pages -/

/-- A parsed document of which the body keeps its place is a page. -/
private theorem exists_page (holds : HeadHolds document head)
    (unmoved : areUnmoved [] (document.forest body) = true) :
    ∃ page : Page, page.Restorable ∧
      page.trees = document.forest Document.root ∧
        heightAll page.sections ≤ limit + 1 := by
  obtain ⟨prolog, top, preambles⟩ := shaped.top
  obtain ⟨before, between, below, comments, fillers⟩ := shaped.sections
  obtain ⟨htmlElement, _, htmlTree, isHtml⟩ :=
    exists_outerElement parsed ((shaped.isHtml html).mpr rfl)
  obtain ⟨headElement, _, headTree, isHead⟩ :=
    exists_outerElement parsed ((shaped.isHead head).mpr rfl)
  obtain ⟨bodyElement, bodyPresent, bodyTree, isBody⟩ :=
    exists_outerElement parsed ((shaped.isBody body).mpr rfl)
  have topApart := apart_children parsed shaped Document.root
  have apart := apart_children parsed shaped html
  rw [top] at topApart
  rw [below] at apart
  have content : FaithfulAll [] (document.forest body) := by
    refine faithfulAll_forest parsed shaped body bodyElement [] bodyPresent ?_
      (Or.inr ⟨rfl, not_holdsForeignContent_of_html isBody.html⟩) unmoved
    simp [Element.isHtml, isBody.named]
  have sections : before.map document.tree ++
      .node (.element headElement) (document.forest head) ::
        (between.map document.tree ++
          [.node (.element bodyElement) (document.forest body)]) =
      document.forest html := by
    simp [Document.forest, below, headTree, bodyTree]
  have metadata : Parts .inHead (document.forest head) :=
    parts_map parsed (apart_children parsed shaped head)
      fun _ member => isPart_of_mem_head parsed shaped holds member
  refine ⟨{
    prolog := prolog.map document.tree
    html := htmlElement
    before := before.map document.tree
    head := headElement
    metadata := document.forest head
    between := between.map document.tree
    body := bodyElement
    content := document.forest body }, ?_, ?_, ?_⟩
  · refine ⟨?_, isHtml, ?_, isHead, metadata, ?_, isBody, content⟩
    · apply parts_map parsed topApart.left_of_append
      intro id member
      exact isPart_of_isPreamble parsed (by simp [top, member])
        (preambles id member)
    · apply parts_map parsed apart.left_of_append.left_of_append.left_of_append
      intro id isBefore
      have member : id ∈ document.children html := by simp [below, isBefore]
      exact isPart_of_isFiller parsed shaped member
        (isFiller_of_isComment comments id isBefore)
        (Or.inr (Or.inr (comments id isBefore)))
    · apply parts_map parsed apart.left_of_append.right_of_append
      intro id isBetween
      have member : id ∈ document.children html := by simp [below, isBetween]
      exact isPart_of_isFiller parsed shaped member (fillers id isBetween)
        (Or.inr (Or.inl rfl))
  · rw [Page.trees, Page.sections, sections, ← htmlTree]
    simp [Document.forest, top]
  · have low : heightAll (document.forest head) ≤ limit :=
      heightAll_section_le parsed shaped (by simp)
    have flat : heightAll (document.forest body) ≤ limit :=
      heightAll_section_le parsed shaped (by simp)
    have noBefore := heightAll_fillers parsed (isFiller_of_isComment comments)
    have noBetween := heightAll_fillers parsed fillers
    simp only [Page.sections, heightAll_append, heightAll, height, noBefore,
      noBetween]
    omega

end

/-! ### Parsing again -/

namespace HtmlParser

/-- A parsed document is read back from its outer markup if every element in
its body keeps its place.  One more level than it was parsed with is enough: a
foreign element at the limit that closed itself is opened now. -/
theorem parseDocument_outerHtml {parser other : HtmlParser} {markup : String}
    {document : Document} (positive : 1 ≤ parser.maxDepth)
    (parsed : (parser.parseDocument markup).value = .ok document)
    (settles : Settles document) (deeper : parser.maxDepth < other.maxDepth) :
    ∃ after,
      (other.parseDocument (outerHtml document Document.root)).value =
          .ok after ∧
        after.tree? Document.root = document.tree? Document.root := by
  obtain ⟨isRun, goesOn⟩ := Builder.eq_run_of_parseDocument parsed
  obtain ⟨html, head, body, shaped⟩ := Builder.shaped_run positive goesOn
  rw [← isRun] at shaped
  have sound : IsParsed document := by
    rcases parser.parseDocument_cases markup with
      ⟨found, same, isParsed⟩ | ⟨failed, _⟩
    · cases parsed.symm.trans same
      exact isParsed
    · cases parsed.symm.trans failed
  have holds := headHolds_parseDocument positive parsed
    ((shaped.isHead head).mpr rfl)
  have isBody := (shaped.isBody body).mpr rfl
  obtain ⟨bodyElement, present, _⟩ := (Option.any_eq_true _ _).mp isBody
  have bodyInside := Document.lt_of_data?_eq_some
    (Document.element?_eq_some_iff.mp present)
  obtain ⟨page, restorable, trees, low⟩ := exists_page sound shaped holds
    (settles body bodyInside isBody)
  have inside := Document.lt_of_data?_eq_some shaped.rooted
  have whole : document.tree Document.root =
      .node .document (document.forest Document.root) := by
    rw [sound.wellFormed.tree_eq, shaped.rooted]
    rfl
  have markupIs : outerHtml document Document.root =
      forestMarkup false page.trees := by
    rw [outerHtml, serialize_outer sound.wellFormed inside, whole, treeMarkup,
      trees]
  obtain ⟨after, read, same⟩ := parseDocument_page restorable other (by omega)
  refine ⟨after, ?_, ?_⟩
  · rw [markupIs]
    exact read
  · rw [same, trees, Document.WellFormed.tree?_eq inside, whole]

theorem parseDocument_outerHtml_nested :
    ∃ document after,
      (({ maxDepth := 3 } : HtmlParser).parseDocument nestedMarkup).value =
          .ok document ∧
        (({ maxDepth := 4 } : HtmlParser).parseDocument
            (outerHtml document Document.root)).value = .ok after ∧
          after.tree? Document.root = document.tree? Document.root := by
  have evaluated : (({ maxDepth := 3 } : HtmlParser).parseDocument
      nestedMarkup).value.toOption.any (fun document => Settles document) =
        true := by
    decide +kernel
  obtain ⟨document, found, settles⟩ := (Option.any_eq_true _ _).mp evaluated
  cases parsed :
      (({ maxDepth := 3 } : HtmlParser).parseDocument nestedMarkup).value with
  | error fault =>
      rw [parsed] at found
      cases found
  | ok document =>
      rw [parsed] at found
      cases found
      obtain ⟨after, read, same⟩ := parseDocument_outerHtml
        (by decide : 1 ≤ ({ maxDepth := 3 } : HtmlParser).maxDepth) parsed
        (of_decide_eq_true settles)
        (by decide : 3 < ({ maxDepth := 4 } : HtmlParser).maxDepth)
      exact ⟨document, after, rfl, read, same⟩

/-- A paragraph that an end tag supplies inside SVG does not keep its place. -/
example : (({} : HtmlParser).parseDocument "<svg></p>").value.toOption.any
    (fun document => Settles document) = false := by
  decide +kernel

end HtmlParser

end MarkupHarden.Html
