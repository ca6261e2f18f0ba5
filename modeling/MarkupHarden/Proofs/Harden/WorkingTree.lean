import MarkupHarden.Harden.WorkingTree
import MarkupHarden.Proofs.Dom.Copying
import MarkupHarden.Proofs.Dom.Relinking
import MarkupHarden.Proofs.Dom.Walk
import MarkupHarden.Proofs.Html.FragmentContent
import MarkupHarden.Proofs.Html.Shaping

/-!
# Building working trees

A node that can be hardened can always be copied into the shell.  The bundled
parser always finds a tree in markup: if the markup nests too deeply for a
document, it becomes the content of the body of a shell.
-/

namespace MarkupHarden

open Dom (Document Element Node NodeData NodeId)

/-! ### Documents with a body -/

/-- The document element of a document is `html`, its last child is `body`, and
a search by name finds both. -/
structure Framed (document : Document) (html body : NodeId) : Prop where
  wellFormed : document.WellFormed
  documentElement : document.documentElement? = some html
  isHtml : document.isHtmlElement html "html" = true
  isBody : document.isHtmlElement body "body" = true
  firstHtml : document.firstElementNamed? Document.root "html" = some html
  firstBody : document.firstElementNamed? Document.root "body" = some body
  last : ∃ before, document.children html = before ++ [body] ∧
    ∀ id ∈ before, document.isHtmlElement id "body" = false

private theorem firstElementNamed?_eq {document : Document} {id : NodeId}
    {name : String} (sole : ∀ other, document.isHtmlElement other name = true ↔
      other = id)
    (connected : id ∈ document.descendants Document.root) :
    document.firstElementNamed? Document.root name = some id := by
  unfold Document.firstElementNamed?
  cases found : (document.descendants Document.root).find?
      (document.isHtmlElement · name) with
  | none =>
      rw [List.find?_eq_none] at found
      exact absurd ((sole id).mpr rfl) (found id connected)
  | some other =>
      have named := List.find?_some found
      rw [(sole other).mp named]

theorem Framed.body? {document : Document} {html body : NodeId}
    (framed : Framed document html body) : document.body? = some body := by
  obtain ⟨before, children, others⟩ := framed.last
  exact Document.body?_eq framed.documentElement children others framed.isBody

theorem Html.Shaped.framed {limit : Nat} {document : Document}
    {html head body : NodeId}
    (shaped : Html.Shaped limit document html head body)
    (wellFormed : document.WellFormed) : Framed document html body := by
  have isHtml := (shaped.isHtml html).mpr rfl
  have isBody := (shaped.isBody body).mpr rfl
  have inside {id : NodeId} {name : String}
      (named : document.isHtmlElement id name = true) :
      id < document.nodeCount := by
    obtain ⟨element, present, _⟩ := Document.exists_data_of_isHtmlElement named
    exact Document.lt_of_data?_eq_some present
  refine ⟨wellFormed, ?_, isHtml, isBody,
    firstElementNamed?_eq shaped.isHtml (shaped.connected html (inside isHtml)),
    firstElementNamed?_eq shaped.isBody (shaped.connected body (inside isBody)),
    ?_⟩
  · obtain ⟨prolog, children, preamble⟩ := shaped.top
    have skipped : prolog.find?
        (fun id => document.kind? id = some .element) = none := by
      rw [List.find?_eq_none]
      intro id member
      obtain ⟨data, present, isPreamble⟩ :=
        (Option.any_eq_true _ _).mp (preamble id member)
      rw [Document.kind?, present]
      cases data <;> first | contradiction | simp [NodeData.kind]
    rw [Document.documentElement?, children, List.find?_append, skipped]
    simp [Document.kind?_of_isHtmlElement isHtml]
  · obtain ⟨before, between, children, _, _⟩ := shaped.sections
    refine ⟨before ++ [head] ++ between, children, ?_⟩
    intro id member
    rw [Bool.eq_false_iff, ne_eq, shaped.isBody]
    rintro rfl
    have distinct := wellFormed.nodup html
    rw [children, List.nodup_append] at distinct
    exact distinct.2.2 id member id List.mem_cons_self rfl

/-! ### The headless shell -/

namespace WorkingTree

theorem wellFormed_headlessShell : headlessShell.WellFormed :=
  Document.wellFormed_of_hasOrderedLinks (by decide)

private theorem isParsed_headlessShell : Html.IsParsed headlessShell where
  wellFormed := wellFormed_headlessShell
  stands := by
    have outer (name : String) (member : name ∈ ["html", "head", "body"])
        (parent : Option Element)
        (below : ∀ element, parent = some element →
          element.isHtml "html" = true) {id : NodeId} :
        Html.FitsBelow parent (.element (.html name)) ∧
          ∀ element, NodeData.element (.html name) = .element element →
            Html.HoldsTextAt headlessShell id element := by
      refine ⟨Html.Builder.belongs_outer member below, ?_⟩
      rintro _ ⟨⟩
      have ordinary : ∀ name ∈ ["html", "head", "body"],
          Html.isTextOnly (.html name) = false := by decide
      exact Html.holdsTextAt_of_not_isTextOnly (ordinary name member)
    have alone : ∀ id ∈ [1, 2],
        Html.parentElement? headlessShell id = none := by decide
    intro id data present
    have inside : id < 4 := Document.lt_of_data?_eq_some present
    match id, inside with
    | 0, _ => exact .inl ⟨(Option.some.inj present).symm, rfl⟩
    | 1, _ =>
        cases present
        rw [alone 1 (by decide)]
        exact .inr (outer "html" (by decide) none nofun)
    | 2, _ =>
        cases present
        rw [alone 2 (by decide)]
        exact .inr (outer "head" (by decide) none nofun)
    | 3, _ =>
        cases present
        refine .inr (outer "body" (by decide) _ ?_)
        rintro _ ⟨⟩
        decide

private theorem textless_headlessShell (id : NodeId) (text : String) :
    headlessShell.data? id ≠ some (.text text) := by
  intro present
  have inside : id < 4 := Document.lt_of_data?_eq_some present
  match id, inside with
  | 0, _ | 1, _ | 2, _ | 3, _ => cases present

/-- Whatever was put into its body, the shell keeps its frame. -/
theorem framed_of_extends {later : Document}
    (extended : headlessShell.Extends 3 later) : Framed later 1 3 := by
  have wellFormed := extended.wellFormed
  have inside {id : NodeId} (old : id < 4) : id < later.nodeCount :=
    Nat.lt_of_lt_of_le old extended.nodeCount
  have atRoot : later.children 0 = [1] :=
    (extended.children 0 (by decide) (by decide)).trans (by decide)
  have atHtml : later.children 1 = [3] :=
    (extended.children 1 (by decide) (by decide)).trans (by decide)
  have document : later.element? 0 = none :=
    (extended.element? (by decide)).trans (by decide)
  have html : later.element? 1 = some (.html "html") :=
    (extended.element? (by decide)).trans (by decide)
  have body : later.element? 3 = some (.html "body") :=
    (extended.element? (by decide)).trans (by decide)
  have isHtml : later.isHtmlElement 1 "html" = true := by
    rw [Document.isHtmlElement, html]
    decide
  have isBody : later.isHtmlElement 3 "body" = true := by
    rw [Document.isHtmlElement, body]
    decide
  have order : ∃ rest, later.descendants Document.root =
      0 :: 1 :: 3 :: rest := by
    refine ⟨later.subtrees (later.children 3), ?_⟩
    rw [Document.descendants_eq_subtree wellFormed, Document.root,
      wellFormed.subtree_eq (inside (by decide)), atRoot,
      Document.subtrees_cons, wellFormed.subtree_eq (inside (by decide)),
      atHtml, Document.subtrees_cons,
      wellFormed.subtree_eq (inside (by decide)), Document.subtrees_nil,
      List.append_nil, List.append_nil]
  obtain ⟨rest, order⟩ := order
  refine ⟨wellFormed, ?_, isHtml, isBody, ?_, ?_, [], atHtml,
    List.forall_mem_nil _⟩
  · exact Document.documentElement?_eq atRoot isHtml
  · have notRoot : later.isHtmlElement 0 "html" = false := by
      rw [Document.isHtmlElement, document]
      rfl
    rw [Document.firstElementNamed?, order]
    simp [notRoot, isHtml]
  · have notRoot : later.isHtmlElement 0 "body" = false := by
      rw [Document.isHtmlElement, document]
      rfl
    have notHtml : later.isHtmlElement 1 "body" = false := by
      rw [Document.isHtmlElement, html]
      decide
    rw [Document.firstElementNamed?, order]
    simp [notRoot, notHtml, isBody]

/-! ### Trees of markup -/

/-- The bundled parser can assign any markup to the body of the shell. -/
theorem exists_assigned (parser : Html.HtmlParser) (markup : String) :
    ∃ later, (parser.parseFragment markup headlessShell 3).value =
        (.ok (), later) ∧ headlessShell.Extends 3 later :=
  Html.HtmlParser.parseFragment_extends isParsed_headlessShell (by decide)
    textless_headlessShell
    (by decide : headlessShell.element? 3 = some (.html "body")) (by decide)
    parser markup

/-- The bundled parser finds a document with a body in any markup. -/
theorem framed_parse? {parser : Html.HtmlParser}
    (positive : 1 ≤ parser.maxDepth) (markup : String) :
    ∃ document html body,
      (parse? parser.toMarkupParser markup).value = some document ∧
        Framed document html body := by
  rcases parser.parseDocument_cases markup with
    ⟨document, parsed, isParsed⟩ | ⟨failed, _⟩
  · obtain ⟨isRun, goesOn⟩ := Html.Builder.eq_run_of_parseDocument parsed
    obtain ⟨html, head, body, shaped⟩ :=
      Html.Builder.shaped_run positive goesOn
    rw [← isRun] at shaped
    have framed := shaped.framed isParsed.wellFormed
    refine ⟨document, html, body, ?_, framed⟩
    rw [parse?, Logged.value_bind]
    simp only [Html.HtmlParser.toMarkupParser, parsed, framed.documentElement,
      Option.isSome_some, if_true, Logged.value_pure]
  · have isBody : headlessShell.body? = some 3 := by decide
    obtain ⟨later, added, extended⟩ := exists_assigned parser markup
    refine ⟨later, 1, 3, ?_, framed_of_extends extended⟩
    rw [parse?, Logged.value_bind]
    simp only [Html.HtmlParser.toMarkupParser, failed, Logged.value_bind,
      assignToBody?, isBody, added, Logged.value_pure]

/-- The working tree of markup is its document at `html` or at the body. -/
theorem ofMarkup?_framed {parser : Html.HtmlParser}
    (positive : 1 ≤ parser.maxDepth) (markup : String) :
    ∃ document html body, Framed document html body ∧
      ∀ wholeDocument,
        (ofMarkup? parser.toMarkupParser markup wholeDocument).value =
          some { document, root := if wholeDocument then html else body } := by
  obtain ⟨document, html, body, parsed, framed⟩ := framed_parse? positive markup
  refine ⟨document, html, body, framed, fun wholeDocument => ?_⟩
  rw [ofMarkup?, Logged.value_bind, Logged.value_pure, parsed, Option.bind_some,
    select?]
  cases wholeDocument with
  | false => rw [rootName, if_neg Bool.false_ne_true, framed.firstBody]; rfl
  | true => rw [rootName, if_pos rfl, framed.firstHtml]; rfl

/-! ### Trees of markup from any parser -/

section

variable {parser : Html.MarkupParser} {markup : String}
  {document later : Document}

/-- The document has an element at which the work can start. -/
def HoldsRoot (document : Document) (wholeDocument : Bool) : Prop :=
  ∃ id ∈ document.descendants Document.root,
    document.isHtmlElement id (rootName wholeDocument) = true

/-- The `html` and the body of the shell without a head are still in place. -/
structure KeepsFrame (later : Document) : Prop where
  html : 1 ∈ later.descendants Document.root
  isHtml : later.isHtmlElement 1 "html" = true
  body : 3 ∈ later.descendants Document.root
  isBody : later.isHtmlElement 3 "body" = true

theorem keepsFrame_of_framed (framed : Framed later 1 3) :
    KeepsFrame later where
  html := List.mem_of_find?_eq_some framed.firstHtml
  isHtml := framed.isHtml
  body := List.mem_of_find?_eq_some framed.firstBody
  isBody := framed.isBody

theorem KeepsFrame.holdsRoot (keeps : KeepsFrame later)
    (wholeDocument : Bool) : HoldsRoot later wholeDocument := by
  cases wholeDocument with
  | false => exact ⟨3, keeps.body, keeps.isBody⟩
  | true => exact ⟨1, keeps.html, keeps.isHtml⟩

theorem isSome_select?_iff {wholeDocument : Bool} :
    (select? document wholeDocument).isSome = true ↔
      HoldsRoot document wholeDocument := by
  rw [select?, Option.isSome_map, Document.firstElementNamed?,
    List.find?_isSome]
  rfl

theorem value_parse?_of_documentElement
    (parsed : (parser.parseDocument markup).value = .ok document)
    (some : document.documentElement?.isSome = true) :
    (parse? parser markup).value = Option.some document := by
  rw [parse?, Logged.value_bind, parsed]
  simp only [some, if_true, Logged.value_pure]

/-- The markup is assigned to a body when there is no document element. -/
theorem value_parse?_of_assigned
    (none : ∀ document, (parser.parseDocument markup).value = .ok document →
      document.documentElement?.isSome = false)
    (assigned : (parser.parseFragment markup headlessShell 3).value =
      (.ok (), later)) :
    (parse? parser markup).value = some later := by
  have isBody : headlessShell.body? = some 3 := by decide
  have fallback : (assignToBody? parser markup).value = some later := by
    rw [assignToBody?, isBody]
    simp only [Logged.value_bind, assigned, Logged.value_pure]
  rw [parse?, Logged.value_bind]
  cases parsed : (parser.parseDocument markup).value with
  | error fault => simp only [Logged.value_bind, fallback]
  | ok document =>
      simp only [none document parsed, Bool.false_eq_true, if_false,
        Logged.value_bind, fallback]

/-- When the markup can be assigned to a body, there is a working tree unless
the parser comes up with a document element but not with the element at which
the work starts. -/
theorem ofMarkup?_isSome_iff
    (assigned : (parser.parseFragment markup headlessShell 3).value =
      (.ok (), later))
    (keeps : KeepsFrame later) (wholeDocument : Bool) :
    (ofMarkup? parser markup wholeDocument).value.isSome = true ↔
      ∀ document, (parser.parseDocument markup).value = .ok document →
        document.documentElement?.isSome = true →
          HoldsRoot document wholeDocument := by
  have selected (document : Document)
      (parsed : (parse? parser markup).value = some document) :
      (ofMarkup? parser markup wholeDocument).value.isSome = true ↔
        HoldsRoot document wholeDocument := by
    rw [ofMarkup?, Logged.value_bind, Logged.value_pure, parsed,
      Option.bind_some, isSome_select?_iff]
  by_cases usable : ∃ document,
      (parser.parseDocument markup).value = .ok document ∧
        document.documentElement?.isSome = true
  · obtain ⟨document, parsed, some⟩ := usable
    rw [selected document (value_parse?_of_documentElement parsed some)]
    constructor
    · intro holds other same _
      cases parsed.symm.trans same
      exact holds
    · exact fun each => each document parsed some
  · have none : ∀ document,
        (parser.parseDocument markup).value = .ok document →
          document.documentElement?.isSome = false := by
      intro document parsed
      rw [Bool.eq_false_iff]
      exact fun some => usable ⟨document, parsed, some⟩
    rw [selected later (value_parse?_of_assigned none assigned)]
    refine ⟨fun _ document parsed some => ?_,
      fun _ => keeps.holdsRoot wholeDocument⟩
    rw [none document parsed] at some
    contradiction

end

/-- A parser whose documents hold nothing but `html`. -/
def bodilessParser : Html.MarkupParser :=
  { ({} : Html.HtmlParser).toMarkupParser with
    parseDocument := fun _ =>
      pure (.ok
        (Document.empty.grown Document.root (.element (.html "html")))) }

/-- The markup could be assigned to a body, but is not. -/
theorem ofMarkup?_bodilessParser :
    (∃ later, (bodilessParser.parseFragment "x" headlessShell 3).value =
        (.ok (), later) ∧ KeepsFrame later) ∧
      (ofMarkup? bodilessParser "x" false).value.isSome = false := by
  obtain ⟨later, assigned, extended⟩ := exists_assigned {} "x"
  exact ⟨⟨later, assigned, keepsFrame_of_framed (framed_of_extends extended)⟩,
    by decide⟩

/-! ### Trees of nodes -/

/-- A node that is new to a shell is not above its `html` and `body`. -/
private theorem not_below_copy {shell : Document}
    (same : ∀ id < 4, shell.node? id = Document.shell.node? id) :
    ¬shell.InSubtree 1 4 ∧ ¬shell.InSubtree 3 4 := by
  have parent {id : NodeId} (old : id < 4) :
      shell.parent? id = Document.shell.parent? id := by
    rw [Document.parent?, same id old, Document.parent?]
  have climb {id above : NodeId} (old : id < 4)
      (hangs : Document.shell.parent? id = some above)
      (apart : ¬shell.InSubtree above 4) : ¬shell.InSubtree id 4 := by
    intro below
    rcases Relation.ReflTransGen.cases_head below with same | ⟨_, next, rest⟩
    · exact Nat.ne_of_lt old same
    · cases hangs.symm.trans ((parent old).symm.trans next)
      exact apart rest
  have atRoot : ¬shell.InSubtree 0 4 := by
    intro below
    rcases Relation.ReflTransGen.cases_head below with same | ⟨_, next, _⟩
    · exact absurd same (by decide)
    · cases (parent (by decide)).symm.trans next
  have atHtml : ¬shell.InSubtree 1 4 := climb (by decide) rfl atRoot
  exact ⟨atHtml, climb (by decide) rfl atHtml⟩

/-- The body of a shell that received a node: the node itself when it is a body,
else the body of the shell around it. -/
def bodyAround (isBody : Bool) (tree : Dom.Tree) : Dom.Tree :=
  if isBody then tree else .node (.element (.html "body")) [tree]

/-- The shell around a body. -/
def shellAround (body : Dom.Tree) : Dom.Tree :=
  .node (.element (.html "html")) [.node (.element (.html "head")) [], body]

/-- A shell whose node 4 is a copy that hangs nowhere. -/
private structure Receives (shell : Document) (data : NodeData) : Prop where
  wellFormed : shell.WellFormed
  same : ∀ id < 4, shell.node? id = Document.shell.node? id
  copied : shell.data? 4 = some data
  free : shell.parent? 4 = none
  notDocument : data ≠ .document

/-- The shell in which the copy, in the place of the body or inside it, hangs
below `html`. -/
private structure Received (shell after : Document) (body : NodeId) : Prop where
  wellFormed : after.WellFormed
  data? : ∀ id, after.data? id = shell.data? id
  html : after.children 1 = [2, body]
  head : after.children 2 = []
  tree : after.tree 4 = shell.tree 4
  body : shell.isHtmlElement 4 "body" = true ∧ body = 4 ∨
    shell.isHtmlElement 4 "body" = false ∧ body = 3 ∧ after.children 3 = [4]

namespace Receives

variable {shell : Document} {data : NodeData}

private theorem children (receives : Receives shell data) {id : NodeId}
    (old : id < 4) : shell.children id = Document.shell.children id := by
  rw [Document.children, receives.same id old, Document.children]

private theorem data? (receives : Receives shell data) {id : NodeId}
    (old : id < 4) : shell.data? id = Document.shell.data? id := by
  rw [Document.data?, receives.same id old, Document.data?]

/-- What changes the children of outer nodes only keeps the tree of the copy. -/
private theorem tree_eq (receives : Receives shell data) {after : Document}
    (later : after.WellFormed) (data? : ∀ id, after.data? id = shell.data? id)
    (children : ∀ id, id ≠ 1 → id ≠ 3 →
      after.children id = shell.children id) :
    after.tree 4 = shell.tree 4 := by
  obtain ⟨atHtml, atBody⟩ := not_below_copy receives.same
  refine receives.wellFormed.tree_congr later 4 fun id below =>
    ⟨data? id, children id ?_ ?_⟩
  · rintro rfl
    exact atHtml below
  · rintro rfl
    exact atBody below

private theorem replace (receives : Receives shell data)
    (isBody : shell.isHtmlElement 4 "body" = true) :
    ∃ after, place shell 3 4 = .ok (after, 4) ∧ Received shell after 4 := by
  have hangs : shell.parent? 3 = some 1 := by
    rw [Document.parent?, receives.same 3 (by decide)]
    rfl
  have inside : shell.contains 4 = true :=
    Document.contains_iff.mpr (Document.lt_of_data?_eq_some receives.copied)
  have apart : shell.isInclusiveAncestor 4 1 = false := by
    rw [Bool.eq_false_iff, ne_eq, receives.wellFormed.isInclusiveAncestor_iff]
    exact (not_below_copy receives.same).1
  have allowed : shell.replaceRefusal? 1 4 = none := by
    rw [Document.replaceRefusal?, inside, apart]
    rfl
  have replaced := Document.replaceChild_eq hangs (by decide) receives.free
    allowed
  have later := receives.wellFormed.replaceChild 3 4
  rw [replaced] at later
  have children := Document.children_exchanged
    (receives.wellFormed.parent_lt hangs) 3 4
  refine ⟨shell.exchanged 1 3 4, ?_, later, Document.data?_exchanged, ?_, ?_,
    ?_, Or.inl ⟨isBody, rfl⟩⟩
  · simp only [place, isBody, if_true, replaced]
  · rw [children, if_pos rfl, receives.children (by decide)]
    rfl
  · rw [children, if_neg (by decide), receives.children (by decide)]
    rfl
  · refine receives.tree_eq later Document.data?_exchanged ?_
    intro id notHtml _
    rw [children, if_neg notHtml]

private theorem append (receives : Receives shell data)
    (other : shell.isHtmlElement 4 "body" = false) :
    ∃ after, place shell 3 4 = .ok (after, 3) ∧ Received shell after 3 := by
  have bodyData : shell.data? 3 = some (.element (.html "body")) := by
    rw [receives.data? (by decide)]
    rfl
  have kind : shell.kind? 4 = some data.kind := by
    rw [Document.kind?, receives.copied]
    rfl
  have notDocument : data.kind ≠ .document := by
    have different := receives.notDocument
    cases data <;> simp_all [NodeData.kind]
  have apart : shell.isInclusiveAncestor 4 3 = false := by
    rw [Bool.eq_false_iff, ne_eq, receives.wellFormed.isInclusiveAncestor_iff]
    exact (not_below_copy receives.same).2
  have allowed : shell.appendRefusal? 3 4 = none := by
    simp [Document.appendRefusal?, bodyData, NodeData.canHoldChildren, kind,
      notDocument, apart]
  have appended := Document.appendChild_eq receives.free allowed
  have later := receives.wellFormed.appendChild 3 4
  rw [appended] at later
  have children := Document.children_linkLast
    (Document.lt_of_data?_eq_some bodyData) 4
  refine ⟨shell.linkLast 3 4, ?_, later, fun _ => Document.data?_linkLast _,
    ?_, ?_, ?_, Or.inr ⟨other, rfl, ?_⟩⟩
  · simp only [place, other, Bool.false_eq_true, if_false, appended]
  · rw [children, if_neg (by decide), receives.children (by decide)]
    rfl
  · rw [children, if_neg (by decide), receives.children (by decide)]
    rfl
  · refine receives.tree_eq later (fun _ => Document.data?_linkLast _) ?_
    intro id _ notBody
    rw [children, if_neg notBody]
  · rw [children, if_pos rfl, receives.children (by decide)]
    rfl

private theorem exists_place (receives : Receives shell data) :
    ∃ after body, place shell 3 4 = .ok (after, body) ∧
      Received shell after body := by
  cases isBody : shell.isHtmlElement 4 "body" with
  | true => exact ⟨_, 4, (receives.replace isBody).choose_spec⟩
  | false => exact ⟨_, 3, (receives.append isBody).choose_spec⟩

/-- The trees at the body and at `html` in the end. -/
private theorem trees (receives : Receives shell data) {after : Document}
    {body : NodeId} (received : Received shell after body) :
    after.tree body =
        bodyAround (shell.isHtmlElement 4 "body") (shell.tree 4) ∧
      after.tree 1 = shellAround (after.tree body) := by
  have wellFormed := received.wellFormed
  have outer {id : NodeId} (old : id < 4) :
      after.data? id = Document.shell.data? id :=
    (received.data? id).trans (receives.data? old)
  constructor
  · rcases received.body with ⟨isBody, rfl⟩ | ⟨other, rfl, content⟩
    · rw [isBody, bodyAround, if_pos rfl, received.tree]
    · rw [other, bodyAround, if_neg Bool.false_ne_true, wellFormed.tree_eq,
        outer (by decide), Document.forest, content, List.map_singleton,
        received.tree]
      rfl
  · have head : after.tree 2 = .node (.element (.html "head")) [] := by
      rw [wellFormed.tree_eq, outer (by decide), Document.forest,
        received.head]
      rfl
    rw [wellFormed.tree_eq, outer (by decide), Document.forest, received.html,
      List.map_cons, List.map_singleton, head]
    rfl

end Receives

/-- Whatever is copied, the shell takes it, and its trees are those of the
shell around the node. -/
theorem ofNode_eq_ok {source : Document} (sourceWellFormed : source.WellFormed)
    {id : NodeId} {data : NodeData} (present : source.data? id = some data)
    (notDocument : data ≠ .document) :
    ∃ document html body, document.WellFormed ∧
      html < document.nodeCount ∧
      document.tree body =
        bodyAround (source.isHtmlElement id "body") (source.tree id) ∧
      document.tree html = shellAround (document.tree body) ∧
      ∀ wholeDocument, ofNode source id wholeDocument =
        .ok { document, root := if wholeDocument then html else body } := by
  obtain ⟨shell, imported, wellFormed, copied, free, tree, same⟩ :=
    Document.wellFormed_shell.importNode_eq sourceWellFormed present notDocument
  have receives : Receives shell data :=
    ⟨wellFormed, same, copied, free, notDocument⟩
  have isHtml (name : String) {id : NodeId} (old : id < 4) :
      shell.isHtmlElement id name = Document.shell.isHtmlElement id name := by
    simp only [Document.isHtmlElement, Document.element?, receives.data? old]
  have documentElement : shell.documentElement? = some 1 :=
    Document.documentElement?_eq (receives.children (by decide : 0 < 4))
      ((isHtml "html" (by decide)).trans (by decide))
  have body : shell.body? = some 3 := by
    have atHtml : shell.children 1 = [2] ++ [3] := receives.children (by decide)
    refine Document.body?_eq documentElement atHtml ?_
      ((isHtml "body" (by decide)).trans (by decide))
    intro id member
    rw [List.mem_singleton.mp member, isHtml "body" (by decide)]
    decide
  have isBody : shell.isHtmlElement 4 "body" =
      source.isHtmlElement id "body" := by
    have payload : shell.data? 4 = source.data? id :=
      copied.trans present.symm
    simp only [Document.isHtmlElement, Document.element?, payload]
  obtain ⟨after, root, placed, received⟩ := receives.exists_place
  obtain ⟨bodyTree, htmlTree⟩ := receives.trees received
  have copiedTree : shell.tree 4 = source.tree id := tree
  rw [isBody, copiedTree] at bodyTree
  have head : 2 ∈ after.children 1 := received.html ▸ List.mem_cons_self
  have inside : 1 < after.nodeCount := received.wellFormed.parent_lt
    ((received.wellFormed.mem_children 1 2).mp head)
  refine ⟨after, 1, root, received.wellFormed, inside, bodyTree, htmlTree, ?_⟩
  intro wholeDocument
  rw [ofNode, imported]
  simp only [documentElement, body]
  change (WorkingTree.place shell 3 4).map _ = _
  rw [placed]
  rfl

end WorkingTree

end MarkupHarden
