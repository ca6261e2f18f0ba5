import MarkupHarden.Proofs.Dom.SharedContent
import MarkupHarden.Proofs.Html.Effects
import MarkupHarden.Proofs.Html.Grounding
import MarkupHarden.Proofs.Html.OpenElements

/-!
# Pages and fragments

In the body of a page, markup is read as it is in a fragment: a builder asks
for the names of the open elements and for the text that comes last, and the
same stands in both documents.  Two builders that hold the same content go on
to do so, token by token, until the markup ends or the page nests too deeply.
-/

namespace MarkupHarden.Html

open Dom (Document Element Namespace NodeData NodeId)
open Dom.Document (InContent SharesContent)

theorem bare_addAttributes (element : Element) (attributes : TagAttributes) :
    (element.addAttributes attributes).bare = element.bare := by
  obtain ⟨ns, name⟩ := sameName_addAttributes element attributes
  rw [Element.bare, Element.bare, ns, name]

namespace Builder

variable {page part after : Builder} {parent : NodeId}

/-! ### Two builders with the same content -/

/-- The builder of a page that stands somewhere in the body of the shell. -/
structure OnPage (page : Builder) : Prop extends Grounded page where
  mode : page.mode = .inBody
  whole : page.fragment = false
  accepted : page.refusal = none
  isHtml : page.html = some 1
  isHead : page.head = some 2
  isBody : page.body = some 3
  isOpen : page.openNodes ≠ []
  within : ∀ node ∈ page.openNodes, InContent 3 4 node
  frame : ∀ id < 3, page.document.children id = Document.shell.children id

/-- The builder of a fragment that has come as far in another document. -/
def asFragment (builder : Builder) (document : Document) : Builder :=
  { builder with
    document, html := none, head := none, body := none, fragment := true }

/-- The builder of a page, and that of a fragment with the same content. -/
inductive Mirrors : Builder → Builder → Prop where
  | intro {page : Builder} {other : Document} :
      OnPage page → other.WellFormed →
      SharesContent 3 4 page.document other →
      Mirrors page (page.asFragment other)

theorem Mirrors.onPage (mirrors : Mirrors page part) : OnPage page := by
  obtain ⟨onPage, _, _⟩ := mirrors
  exact onPage

/-- The body of the page and that of the fragment hold the same trees. -/
theorem Mirrors.forest_eq (mirrors : Mirrors page part) :
    part.document.forest 3 = page.document.forest 3 := by
  obtain ⟨onPage, wellFormed, shares⟩ := mirrors
  exact shares.forest_eq onPage.wellFormed wellFormed

/-- Something that is the same about both builders. -/
def Alike {α : Type} (reading : Builder → α) : Prop :=
  ∀ page part, Mirrors page part → reading part = reading page

/-- A change after which both builders still have the same content. -/
def Keeps (change : Builder → Builder) : Prop :=
  ∀ page part, Mirrors page part → Mirrors (change page) (change part)

/-- A change that also has the text behind it read in the same way. -/
def Agrees (change : Builder → Option TextSwitch × Builder) : Prop :=
  ∀ page part, Mirrors page part →
    (change part).1 = (change page).1 ∧
      Mirrors (change page).2 (change part).2

section Combining

variable {change next : Builder → Builder}
  {result other : Builder → Option TextSwitch × Builder}

theorem Keeps.trans (first : Keeps change) (second : Keeps next) :
    Keeps fun builder => next (change builder) :=
  fun page part mirrors => second _ _ (first page part mirrors)

theorem Keeps.ite {test : Builder → Prop} [DecidablePred test]
    (alike : Alike test) (keeps : Keeps change) (otherwise : Keeps next) :
    Keeps fun builder =>
      if test builder then change builder else next builder := by
  intro page part mirrors
  simp only [alike page part mirrors]
  split
  · exact keeps page part mirrors
  · exact otherwise page part mirrors

theorem Keeps.agrees (keeps : Keeps change) :
    Agrees fun builder => (none, change builder) :=
  fun page part mirrors => ⟨rfl, keeps page part mirrors⟩

theorem Agrees.keeps (agrees : Agrees result) :
    Keeps fun builder => (result builder).2 :=
  fun page part mirrors => (agrees page part mirrors).2

theorem Agrees.behind (agrees : Agrees result) (keeps : Keeps change) :
    Agrees fun builder => result (change builder) :=
  fun page part mirrors => agrees _ _ (keeps page part mirrors)

theorem Agrees.ite {test : Builder → Prop} [DecidablePred test]
    (alike : Alike test) (agrees : Agrees result) (otherwise : Agrees other) :
    Agrees fun builder =>
      if test builder then result builder else other builder := by
  intro page part mirrors
  simp only [alike page part mirrors]
  split
  · exact agrees page part mirrors
  · exact otherwise page part mirrors

/-- What a token says is the same for both builders. -/
private theorem alike_const {α : Type} {value : α} : Alike fun _ => value :=
  fun _ _ _ => rfl

private theorem keeps_id : Keeps fun builder => builder :=
  fun _ _ mirrors => mirrors

end Combining

/-! ### What is read off the open elements -/

private theorem alike_current? : Alike current? := by
  rintro _ _ ⟨_, _, _⟩
  rfl

private theorem alike_openNodes : Alike openNodes := by
  rintro _ _ ⟨_, _, _⟩
  rfl

/-- Searches go by the names of elements, which are the same. -/
private theorem alike_judge (judge : Document → NodeId → Verdict)
    (verdict : Element → Verdict)
    (named : ∀ element : Element, verdict element.bare = verdict element)
    (judges : ∀ document node, judge document node =
      ((document.element? node).map verdict).getD .pass) :
    Alike fun builder => judge builder.document := by
  rintro page _ ⟨_, _, shares⟩
  funext node
  beta_reduce
  rw [judges, judges]
  refine shares.congr_element? (fun found => (found.map verdict).getD .pass)
    ?_ node
  rintro (_ | element)
  · rfl
  · exact named element

private theorem alike_judgeName (name : String) (boundaries : List String) :
    Alike fun builder => judgeName builder.document name boundaries := by
  refine alike_judge (judgeName · name boundaries)
    (nameVerdict name boundaries) (fun _ => rfl) ?_
  intro document node
  cases found : document.element? node with
  | none => rw [judgeName, found]; rfl
  | some element =>
      rw [judgeName_eq found, Option.map_some, Option.getD_some]

private theorem alike_judgeItem (names : List String) :
    Alike fun builder => judgeItem builder.document names := by
  refine alike_judge (judgeItem · names) (itemVerdict names)
    (fun _ => rfl) ?_
  intro document node
  cases found : document.element? node with
  | none => rw [judgeItem, found]; rfl
  | some element =>
      rw [judgeItem_eq found, Option.map_some, Option.getD_some]

private theorem alike_closing? (name : String) (boundaries : List String) :
    Alike fun builder => builder.closing? name boundaries := by
  intro page part mirrors
  have sameJudge : judgeName part.document name boundaries =
      judgeName page.document name boundaries :=
    alike_judgeName name boundaries page part mirrors
  beta_reduce
  rw [closing?, closing?, alike_openNodes page part mirrors, sameJudge]

private theorem alike_namespace :
    Alike fun builder =>
      (builder.currentElement?.map Element.ns).getD .html := by
  rintro page _ ⟨_, _, shares⟩
  change ((page.current?.bind (Document.element? _)).map Element.ns).getD
      Namespace.html =
    ((page.current?.bind page.document.element?).map Element.ns).getD .html
  cases page.current? with
  | none => rfl
  | some node =>
      exact shares.congr_element? (fun found =>
        (found.map Element.ns).getD .html) (by rintro (_ | _) <;> rfl) node

private theorem alike_inForeignContent : Alike inForeignContent := by
  rintro page _ ⟨_, _, shares⟩
  change (page.current?.bind (Document.element? _)).any holdsForeignContent =
    (page.current?.bind page.document.element?).any holdsForeignContent
  cases page.current? with
  | none => rfl
  | some node =>
      exact shares.congr_element? (Option.any holdsForeignContent)
        (by rintro (_ | _) <;> rfl) node

/-! ### Closing elements -/

private theorem OnPage.narrow (onPage : OnPage page) {nodes : List NodeId}
    (suffix : nodes <:+ page.openNodes) (notEmpty : nodes ≠ []) :
    OnPage { page with openNodes := nodes } :=
  { onPage with
    opened := fun node member => onPage.opened node (suffix.subset member)
    isOpen := notEmpty
    within := fun node member => onPage.within node (suffix.subset member) }

/-- Both builders close the same elements. -/
theorem Mirrors.narrows (mirrors : Mirrors page part)
    (narrows : Narrows page after) :
    Mirrors after { part with openNodes := after.openNodes } := by
  obtain ⟨onPage, wellFormed, shares⟩ := mirrors
  have isOpen := narrows.isOpen onPage.isOpen
  obtain ⟨nodes, suffix, _, rfl⟩ := narrows
  exact .intro (onPage.narrow suffix isOpen) wellFormed shares

private theorem keeps_closeTarget (judge : Document → NodeId → Verdict)
    (alike : Alike fun builder => judge builder.document) :
    Keeps fun builder =>
      { builder with
        openNodes :=
          (closeTarget? (judge builder.document) builder.openNodes).getD
            builder.openNodes } := by
  intro page part mirrors
  have sameJudge : judge part.document = judge page.document :=
    alike page part mirrors
  beta_reduce
  rw [sameJudge, alike_openNodes page part mirrors]
  exact mirrors.narrows (narrows_closeTarget page _)

private theorem keeps_closeNamed (name : String) (boundaries : List String) :
    Keeps fun builder => builder.closeNamed name boundaries :=
  keeps_closeTarget (judgeName · name boundaries)
    (alike_judgeName name boundaries)

private theorem keeps_closeItem (names : List String) :
    Keeps fun builder => builder.closeItem names :=
  keeps_closeTarget (judgeItem · names) (alike_judgeItem names)

private theorem keeps_closeCurrent (names : List String) :
    Keeps fun builder => builder.closeCurrent names := by
  intro page part mirrors
  have narrows := narrows_closeCurrent page names
  have same : part.closeCurrent names =
      { part with openNodes := (page.closeCurrent names).openNodes } := by
    obtain ⟨_, _, shares⟩ := mirrors
    have alike := shares.congr_element? (Option.any fun element =>
      element.ns = .html && names.contains element.localName)
        (by rintro (_ | _) <;> rfl)
    simp only [closeCurrent, asFragment, alike]
    split
    · split <;> rfl
    · rfl
  beta_reduce
  rw [same]
  exact mirrors.narrows narrows

private theorem keeps_closeImplied (name : String) :
    Keeps fun builder => builder.closeImplied name := by
  have closeParagraph : Keeps closeParagraph :=
    keeps_closeNamed "p" paragraphBoundaries
  have first : Keeps fun builder =>
      if name = "a" then builder.closeNamed "a" anchorBoundaries
      else if name = "li" then builder.closeItem ["li"]
      else if name = "dd" || name = "dt" then builder.closeItem ["dd", "dt"]
      else if name = "option" then builder.closeCurrent ["option"]
      else if name = "optgroup" then
        builder.closeCurrent ["option", "optgroup"]
      else if isHeading name then
        builder.closeParagraph.closeCurrent ["h1", "h2", "h3", "h4", "h5", "h6"]
      else builder := by
    apply Keeps.ite alike_const (keeps_closeNamed _ _)
    apply Keeps.ite alike_const (keeps_closeItem _)
    apply Keeps.ite alike_const (keeps_closeItem _)
    apply Keeps.ite alike_const (keeps_closeCurrent _)
    apply Keeps.ite alike_const (keeps_closeCurrent _)
    exact .ite alike_const (closeParagraph.trans (keeps_closeCurrent _))
      keeps_id
  have second : Keeps fun builder =>
      if closesParagraph name then builder.closeParagraph else builder :=
    .ite alike_const closeParagraph keeps_id
  exact first.trans second

private theorem leaveForeign_congr {document other : Document}
    (same : ∀ node, (other.element? node).any holdsForeignContent =
      (document.element? node).any holdsForeignContent)
    (nodes : List NodeId) :
    leaveForeign other nodes = leaveForeign document nodes := by
  fun_induction leaveForeign document nodes with
  | case1 node outer rest foreign induction =>
      rw [leaveForeign, same, if_pos foreign, induction]
  | case2 node outer rest ordinary =>
      rw [leaveForeign, same, if_neg ordinary]
  | case3 nodes short =>
      rw [leaveForeign]
      exact short

private theorem keeps_leaveForeign :
    Keeps fun builder =>
      { builder with
        openNodes := leaveForeign builder.document builder.openNodes } := by
  intro page part mirrors
  have same : leaveForeign part.document part.openNodes =
      leaveForeign page.document page.openNodes := by
    obtain ⟨_, _, shares⟩ := mirrors
    exact leaveForeign_congr (shares.congr_element?
      (Option.any holdsForeignContent) (by rintro (_ | _) <;> rfl)) _
  beta_reduce
  rw [same]
  exact mirrors.narrows (narrows_leaveForeign page)

/-! ### Adding nodes -/

theorem Mirrors.exists_current (mirrors : Mirrors page part) :
    ∃ parent, page.current? = some parent := by
  obtain ⟨onPage, _, _⟩ := mirrors
  obtain ⟨parent, rest, nodes⟩ := List.exists_cons_of_ne_nil onPage.isOpen
  exact ⟨parent, by rw [current?, nodes, List.head?_cons]⟩

/-- A change to the document that leaves the frame of the body as it is. -/
private theorem OnPage.change (onPage : OnPage page) {document : Document}
    (grounded : Grounded { page with document })
    (frame : ∀ id < 3, document.children id = page.document.children id) :
    OnPage { page with document } :=
  { grounded, onPage with
    frame := fun id outside => (frame id outside).trans
      (onPage.frame id outside) }

/-- A payload is replaced. -/
private theorem OnPage.setData (onPage : OnPage page) {id : NodeId}
    {data : NodeData}
    (grounded : Grounded
      { page with document := page.document.setData id data }) :
    OnPage { page with document := page.document.setData id data } :=
  onPage.change grounded fun outer _ => Document.children_setData outer

theorem OnPage.open_new (onPage : OnPage page) {node : NodeId}
    {element : Element}
    (new : 4 ≤ node)
    (present : page.document.element? node = some element) :
    OnPage { page with openNodes := node :: page.openNodes } :=
  { onPage with
    opened := by
      intro other member
      rcases List.mem_cons.mp member with rfl | old
      · exact ⟨element, present⟩
      · exact onPage.opened other old
    isOpen := List.cons_ne_nil _ _
    within := by
      intro other member
      rcases List.mem_cons.mp member with rfl | old
      · exact Or.inr new
      · exact onPage.within other old }

namespace OnPage

variable (onPage : OnPage page) (current : page.current? = some parent)

include onPage current

theorem within_current : InContent 3 4 parent :=
  onPage.within parent (List.mem_of_head? current)

theorem isParent_current : IsParent page.document parent :=
  onPage.isParent_open (List.mem_of_head? current)

theorem grow (data : NodeData) :
    OnPage { page with document := page.document.grown parent data } := by
  have isParent := onPage.isParent_current current
  refine onPage.change (onPage.grown isParent data) fun id outside => ?_
  have apart : id ≠ parent := by
    rintro rfl
    rcases onPage.within_current current with same | new
    · exact Nat.ne_of_lt outside same
    · exact Nat.not_le_of_lt (outside.trans (by decide)) new
  rw [Document.children_grown (onPage.lt_of_isParent isParent), if_neg apart]

end OnPage

namespace Mirrors

variable (mirrors : Mirrors page part)
  (current : page.current? = some parent)

include mirrors current

/-- The same node is added to both documents, under the same number. -/
private theorem attach_eq (data : NodeData)
    (notDocument : data.kind ≠ .document) :
    page.attach parent data =
        (page.document.nodeCount,
          { page with document := page.document.grown parent data }) ∧
      part.attach parent data =
        (page.document.nodeCount,
          { part with document := part.document.grown parent data }) ∧
      Mirrors { page with document := page.document.grown parent data }
        { part with document := part.document.grown parent data } := by
  obtain ⟨onPage, wellFormed, shares⟩ := mirrors
  have isParent := onPage.isParent_current current
  have holds := shares.canHold (onPage.canHold isParent)
  refine ⟨onPage.attach_eq isParent notDocument, ?_,
    .intro (onPage.grow current data) (wellFormed.grown holds data)
      (shares.grown (onPage.lt_of_isParent isParent) data)⟩
  rw [Builder.attach_eq wellFormed holds notDocument]
  exact congrArg (·, _) shares.nodeCount

omit current in
private theorem openNode {node : NodeId} {element : Element} (new : 4 ≤ node)
    (present : page.document.element? node = some element) :
    (part.openNode node).1 = (page.openNode node).1 ∧
      Mirrors (page.openNode node).2 (part.openNode node).2 := by
  obtain @⟨other, onPage, wellFormed, shares⟩ := mirrors
  rcases Nat.lt_or_ge page.openNodes.length page.maxDepth with short | deep
  · have otherShort : (page.asFragment other).openNodes.length <
        (page.asFragment other).maxDepth := short
    rw [openNode_eq short, openNode_eq otherShort]
    exact ⟨rfl, .intro (onPage.open_new new present) wellFormed shares⟩
  · have otherDeep : (page.asFragment other).maxDepth ≤
        (page.asFragment other).openNodes.length := deep
    have later : OnPage { page with tooDeep := true } := { onPage with }
    rw [openNode_of_deep deep, openNode_of_deep otherDeep]
    exact ⟨rfl, .intro later wellFormed shares⟩

/-- A new element is opened in both documents or in neither of them. -/
private theorem attach_element (element : Element) :
    let added := page.attach parent (.element element)
    let other := part.attach parent (.element element)
    Mirrors added.2 other.2 ∧
      (other.2.openNode other.1).1 = (added.2.openNode added.1).1 ∧
      Mirrors (added.2.openNode added.1).2 (other.2.openNode other.1).2 := by
  obtain ⟨isAdded, isOther, later⟩ :=
    mirrors.attach_eq current (.element element) (by simp [NodeData.kind])
  obtain ⟨onPage, _, shares⟩ := mirrors
  have isNew := onPage.element?_grown_self
    (onPage.isParent_current current) element
  rw [isAdded, isOther]
  exact ⟨later, later.openNode shares.older isNew⟩

private theorem attachText (text : String) :
    Mirrors (page.attachText (some parent) text)
      (part.attachText (some parent) text) := by
  by_cases nonempty : text = ""
  · rw [nonempty]
    exact mirrors
  obtain @⟨other, onPage, wellFormed, shares⟩ := mirrors
  have isParent := onPage.isParent_current current
  have holds := onPage.canHold isParent
  have sameText := shares.lastText?_eq (onPage.within_current current)
  cases found : page.document.lastText? parent with
  | none =>
      have written : page.attachText (some parent) text =
          { page with document := page.document.grown parent (.text text) } :=
        attachText_eq_grown onPage.wellFormed holds nonempty found
      have otherWritten :
          (page.asFragment other).attachText (some parent) text =
            page.asFragment (other.grown parent (.text text)) :=
        attachText_eq_grown wellFormed (shares.canHold holds) nonempty
          (sameText.trans found)
      rw [written, otherWritten]
      exact .intro (onPage.grow current _)
        (wellFormed.grown (shares.canHold holds) _)
        (shares.grown (onPage.lt_of_isParent isParent) _)
  | some pair =>
      obtain ⟨last, old⟩ := pair
      have otherFound := sameText.trans found
      have isText := (Document.lastText?_eq_some_iff.mp found).2
      have otherIsText := (Document.lastText?_eq_some_iff.mp otherFound).2
      have written : page.attachText (some parent) text =
          { page with
            document := page.document.setData last (.text (old ++ text)) } :=
        attachText_eq_setData nonempty found
      have otherWritten :
          (page.asFragment other).attachText (some parent) text =
            page.asFragment (other.setData last (.text (old ++ text))) :=
        attachText_eq_setData nonempty otherFound
      rw [written, otherWritten]
      exact .intro (onPage.setData (onPage.setData_text isText _).2)
        (wellFormed.setData_text otherIsText _) (shares.setData last _)

end Mirrors

/-! ### Changes to both documents -/

private theorem keeps_attachText (text : String) :
    Keeps fun builder => builder.attachText builder.current? text := by
  intro page part mirrors
  obtain ⟨parent, current⟩ := mirrors.exists_current
  beta_reduce
  rw [alike_current? page part mirrors, current]
  exact mirrors.attachText current text

private theorem keeps_attachComment (text : String) :
    Keeps fun builder => builder.attachComment builder.current? text := by
  intro page part mirrors
  obtain ⟨parent, current⟩ := mirrors.exists_current
  obtain ⟨isAdded, isOther, later⟩ :=
    mirrors.attach_eq current (.comment text) (by simp [NodeData.kind])
  beta_reduce
  rw [alike_current? page part mirrors, current]
  simp only [attachComment, isAdded, isOther]
  exact later

private theorem agrees_insertHtml (name : String)
    (attributes : TagAttributes) :
    Agrees fun builder =>
      builder.insertHtml builder.current? name attributes := by
  intro page part mirrors
  obtain ⟨parent, current⟩ := mirrors.exists_current
  obtain ⟨closed, sameFlag, opened⟩ := mirrors.attach_element current
    ((Element.html name).addAttributes attributes)
  beta_reduce
  rw [alike_current? page part mirrors, current]
  unfold insertHtml
  dsimp only
  split
  · exact ⟨rfl, closed⟩
  · exact ⟨by rw [sameFlag], opened⟩

private theorem keeps_insertForeign {ns : Builder → Namespace}
    (alike : Alike ns) (name : String) (attributes : TagAttributes)
    (selfClosing : Bool) :
    Keeps fun builder =>
      builder.insertForeign name attributes (ns builder) selfClosing := by
  intro page part mirrors
  obtain ⟨parent, current⟩ := mirrors.exists_current
  beta_reduce
  rw [alike page part mirrors]
  obtain ⟨closed, _, opened⟩ := mirrors.attach_element current
    (elementOf (ns page) name attributes)
  unfold insertForeign
  rw [alike_current? page part mirrors, current, Option.getD_some]
  dsimp only
  split
  · exact closed
  · exact opened

/-- The attributes of a repeated tag are merged into an outer element of the
page; a fragment has none. -/
private theorem keeps_merge {target : Builder → Option NodeId}
    {outer : NodeId} (old : outer < 4)
    (isOuter : ∀ page, OnPage page → target page = some outer)
    (isPart : ∀ page, OnPage page → IsOuter page outer)
    (attributes : TagAttributes) :
    Keeps fun builder =>
      if builder.fragment then builder
      else builder.mergeAttributes (target builder) attributes := by
  rintro page _ @⟨other, onPage, wellFormed, shares⟩
  obtain ⟨element, present, _, merged⟩ :=
    onPage.mergeAttributes_eq (isPart page onPage) attributes
  have later := onPage.setData
    (onPage.setData_element present (sameName_addAttributes element attributes))
  have isWhole : ¬page.fragment = true := by
    rw [onPage.whole]
    exact Bool.false_ne_true
  have isFragment : (page.asFragment other).fragment = true := rfl
  beta_reduce
  rw [if_neg isWhole, if_pos isFragment, isOuter page onPage, merged]
  exact .intro later wellFormed (shares.setData_left old present
    (bare_addAttributes element attributes))

private theorem keeps_mergeHtml (attributes : TagAttributes) :
    Keeps fun builder =>
      if builder.fragment then builder
      else builder.mergeAttributes builder.html attributes :=
  keeps_merge (by decide) (fun _ onPage => onPage.isHtml)
    (fun _ onPage => Or.inl onPage.isHtml) attributes

theorem keeps_mergeBody (attributes : TagAttributes) :
    Keeps fun builder =>
      if builder.fragment then builder
      else builder.mergeAttributes builder.body attributes :=
  keeps_merge (by decide) (fun _ onPage => onPage.isBody)
    (fun _ onPage => Or.inr (Or.inr onPage.isBody)) attributes

private theorem keeps_stray (name : String) :
    Keeps fun builder =>
      { builder with strayEndTags := builder.strayEndTags ++ [name] } := by
  rintro page _ ⟨onPage, wellFormed, shares⟩
  have later : OnPage
      { page with strayEndTags := page.strayEndTags ++ [name] } :=
    { onPage with }
  exact .intro later wellFormed shares

/-! ### Tokens -/

private theorem agrees_htmlStartTag (name : String)
    (attributes : TagAttributes) (selfClosing : Bool) :
    Agrees fun builder =>
      builder.htmlStartTag name attributes selfClosing := by
  have inserted := (agrees_insertHtml name attributes).behind
    (keeps_closeImplied name)
  unfold htmlStartTag
  apply Agrees.ite alike_const (keeps_mergeHtml attributes).agrees
  apply Agrees.ite alike_const (keeps_mergeBody attributes).agrees
  apply Agrees.ite alike_const keeps_id.agrees
  apply Agrees.ite alike_const
  · exact (keeps_insertForeign alike_const name attributes selfClosing).agrees
  apply Agrees.ite alike_const
  · exact (keeps_insertForeign alike_const name attributes selfClosing).agrees
  exact inserted

private theorem agrees_bodyStartTag (name : String)
    (attributes : TagAttributes) (selfClosing : Bool) :
    Agrees fun builder =>
      builder.bodyStartTag name attributes selfClosing := by
  have isHtml := agrees_htmlStartTag name attributes selfClosing
  have inside : Alike fun builder => builder.inForeignContent = true := by
    intro page part mirrors
    exact congrArg (· = true) (alike_inForeignContent page part mirrors)
  unfold bodyStartTag
  apply Agrees.ite inside ?_ isHtml
  apply Agrees.ite alike_const (isHtml.behind keeps_leaveForeign)
  exact (keeps_insertForeign alike_namespace name attributes
    selfClosing).agrees

private theorem keeps_bodyEndTag (name : String) :
    Keeps fun builder => builder.bodyEndTag name := by
  have isNone : Alike fun builder =>
      (name = "p" && (builder.closing? "p" paragraphBoundaries).isNone) =
        true := by
    intro page part mirrors
    have same := alike_closing? "p" paragraphBoundaries page part mirrors
    exact congrArg (fun closing : Option (List NodeId) =>
      (name = "p" && closing.isNone) = true) same
  have paragraph := (agrees_insertHtml "p" []).keeps.trans
    (keeps_closeCurrent ["p"])
  unfold bodyEndTag
  apply Keeps.ite alike_const keeps_id
  apply Keeps.ite alike_const (agrees_insertHtml "br" []).keeps
  apply Keeps.ite isNone paragraph
  intro page part mirrors
  have same : part.closing? name [] = page.closing? name [] :=
    alike_closing? name [] page part mirrors
  beta_reduce
  rw [same]
  cases found : page.closing? name [] with
  | none => exact keeps_stray name page part mirrors
  | some remaining =>
      obtain ⟨suffix, notEmpty⟩ := closeTarget?_suffix found
      exact mirrors.narrows ⟨remaining, suffix, Or.inr notEmpty, rfl⟩

/-- A token does the same to both builders. -/
theorem agrees_step (token : Token) :
    Agrees fun builder => builder.step token := by
  have body : Agrees fun builder => builder.inBody token := by
    cases token with
    | text text => exact (keeps_attachText text).agrees
    | comment text => exact (keeps_attachComment text).agrees
    | doctype name => exact keeps_id.agrees
    | startTag name attributes selfClosing =>
        exact agrees_bodyStartTag name attributes selfClosing
    | endTag name => exact (keeps_bodyEndTag name).agrees
  intro page part mirrors
  have modes : page.mode = .inBody ∧ part.mode = .inBody := by
    obtain ⟨onPage, _, _⟩ := mirrors
    exact ⟨onPage.mode, onPage.mode⟩
  beta_reduce
  rw [step, step, modes.1, modes.2]
  exact body page part mirrors

/-! ### Whole markups -/

theorem Mirrors.not_isStopped (mirrors : Mirrors page part) :
    part.isStopped = false := by
  obtain ⟨onPage, _, _⟩ := mirrors
  have refusal : ∀ other, (page.asFragment other).refusal = none :=
    fun _ => onPage.accepted
  have isFragment : ∀ other, (page.asFragment other).fragment = true :=
    fun _ => rfl
  rw [isStopped, refusal, isFragment]
  simp

/-- Unless the page is given up, it is read to the same end as the fragment. -/
theorem Mirrors.consume (mirrors : Mirrors page part) {lexer : Lexer}
    (going : (page.consume lexer).isStopped = false) :
    Mirrors (page.consume lexer) (part.consume lexer) := by
  generalize length : lexer.rest.length = remaining
  induction remaining using Nat.strong_induction_on
    generalizing page part lexer with
  | _ remaining induction =>
      rw [consume_eq] at going ⊢
      rw [consume_eq part lexer]
      cases read : lexer.next with
      | mk next after =>
          cases next with
          | none => exact mirrors
          | some token =>
              have shorter := Lexer.next_length read
              obtain ⟨sameSwitch, later⟩ :=
                agrees_step token page part mirrors
              simp only [read] at going
              simp only [sameSwitch, later.not_isStopped, Bool.false_eq_true,
                if_false]
              split at going
              next stopped =>
                rw [stopped] at going
                contradiction
              next goesOn =>
                rw [if_neg goesOn]
                exact induction after.rest.length (by omega) later going rfl

end Builder

end MarkupHarden.Html
