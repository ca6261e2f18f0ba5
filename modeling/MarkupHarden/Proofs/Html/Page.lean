import MarkupHarden.Html.Parser
import MarkupHarden.Proofs.Html.Rereading

/-!
# Reading whole documents back

A `Page` lists the trees of a document around its outer elements.  Outside the
body only comments, doctypes, white space and the elements of the head are
expected; they are added one by one, as they were written, while the tags of
`html`, `head` and `body` lead from one part of the page to the next.
-/

namespace MarkupHarden.Html

open Dom (Document Element NodeData NodeId Tree)

/-! ### Outside the body -/

/-- A leaf that is read back as far as a document has been read. -/
inductive IsLeaf (mode : InsertionMode) : NodeData → Prop where
  | doctype {name : String} :
      mode = .beforeHtml → IsDoctypeName name → IsLeaf mode (.doctype name)
  | comment {text : String} : IsCommentText text → IsLeaf mode (.comment text)
  | blank {text : String} :
      mode = .inHead ∨ mode = .afterHead → text ≠ "" →
      Builder.isWhitespace text = true → IsLeaf mode (.text text)

/-- At most one text, which is not empty. -/
def HoldsTextAtMost (children : List Tree) : Prop :=
  children = [] ∨ ∃ text, text ≠ "" ∧ children = [.node (.text text) []]

private theorem HoldsTextAtMost.sound {children : List Tree}
    (texts : HoldsTextAtMost children) : Tree.SoundAll children := by
  rcases texts with rfl | ⟨text, _, rfl⟩
  · trivial
  · exact ⟨⟨by simp [NodeData.kind], fun _ => rfl, trivial⟩, trivial⟩

/-- A tree that is read back as far as a document has been read: a leaf, or an
element of the head with at most one text in it. -/
inductive IsPart (mode : InsertionMode) : Tree → Prop where
  | leaf {data : NodeData} : IsLeaf mode data → IsPart mode (.node data [])
  | element {element : Element} {children : List Tree} :
      mode = .inHead → Spelled element → element.ns = .html →
      isHeadElement element.localName = true →
      FitsContent element.localName children →
      HoldsTextAtMost children →
      IsPart mode (.node (.element element) children)

namespace Builder

variable {builder : Builder} {parent : NodeId}

/-- A builder that adds the next nodes below `parent`, outside the body. -/
structure Gathering (builder : Builder) (parent : NodeId) : Prop where
  going : builder.isStopped = false
  wellFormed : builder.document.WellFormed
  holds : (builder.document.data? parent).any NodeData.canHoldChildren = true
  place : (builder.mode = .beforeHtml ∧ parent = Document.root) ∨
    (builder.mode = .beforeHead ∧ builder.html = some parent) ∨
    (builder.mode = .inHead ∧ builder.head = some parent ∧
      builder.openNodes = [parent]) ∨
    (builder.mode = .afterHead ∧ builder.html = some parent)

namespace Gathering

theorem inside (gathering : Gathering builder parent) :
    parent < builder.document.nodeCount := by
  obtain ⟨_, present, _⟩ := (Option.any_eq_true _ _).mp gathering.holds
  exact Document.lt_of_data?_eq_some present

theorem extend (gathering : Gathering builder parent) {after : Document}
    (extended : builder.document.Extends parent after) :
    Gathering { builder with document := after } parent where
  going := gathering.going
  wellFormed := extended.wellFormed
  holds := by
    rw [extended.data? parent gathering.inside]
    exact gathering.holds
  place := gathering.place

theorem grow (gathering : Gathering builder parent) (data : NodeData) :
    Gathering
      { builder with document := builder.document.grown parent data } parent :=
  gathering.extend (.grown gathering.wellFormed gathering.holds data)

/-- A new element holds nothing yet and can get children. -/
private theorem fresh (gathering : Gathering builder parent)
    (element : Element) :
    let after := builder.document.grown parent (.element element)
    after.WellFormed ∧
      after.element? builder.document.nodeCount = some element ∧
        (after.data? builder.document.nodeCount).any
            NodeData.canHoldChildren = true ∧
          after.lastText? builder.document.nodeCount = none := by
  have wellFormed := (gathering.grow (.element element)).wellFormed
  have payload : (builder.document.grown parent (.element element)).data?
      builder.document.nodeCount = some (.element element) := by
    rw [Document.data?_grown gathering.inside, if_pos rfl]
  refine ⟨wellFormed, Document.element?_eq_some_iff.mpr payload, ?_,
    wellFormed.lastText?_eq_none ?_⟩
  · rw [payload]
    rfl
  · rw [Document.forest_grown_self gathering.inside]
    rfl

private theorem step_doctype (gathering : Gathering builder parent)
    (mode : builder.mode = .beforeHtml) (name : String) :
    builder.step (.doctype name) =
      (none, { builder with
        document := builder.document.grown parent (.doctype name) }) := by
  have atRoot : parent = Document.root := by
    rcases gathering.place with ⟨_, same⟩ | ⟨other, _⟩ | ⟨other, _⟩ | ⟨other, _⟩
    · exact same
    all_goals cases mode.symm.trans other
  subst atRoot
  have attached : builder.attach Document.root (.doctype name) =
      (builder.document.nodeCount, { builder with
        document := builder.document.grown Document.root (.doctype name) }) :=
    attach_eq gathering.wellFormed gathering.holds (by simp [NodeData.kind])
  unfold step
  simp only [mode, beforeHtml, attached]

private theorem step_comment (gathering : Gathering builder parent)
    (text : String) :
    builder.step (.comment text) =
      (none, { builder with
        document := builder.document.grown parent (.comment text) }) := by
  have attached : builder.attach parent (.comment text) =
      (builder.document.nodeCount, { builder with
        document := builder.document.grown parent (.comment text) }) :=
    attach_eq gathering.wellFormed gathering.holds (by simp [NodeData.kind])
  unfold step
  rcases gathering.place with
    ⟨mode, rfl⟩ | ⟨mode, isHtml⟩ | ⟨mode, isHead, _⟩ | ⟨mode, isHtml⟩
  · simp only [mode, beforeHtml, attachComment, attached]
  · simp only [mode, beforeHead, isHtml, attachComment, attached]
  · simp only [mode, inHead, isHead, attachComment, attached]
  · simp only [mode, afterHead, isHtml, attachComment, attached]

private theorem step_blank (gathering : Gathering builder parent)
    (mode : builder.mode = .inHead ∨ builder.mode = .afterHead) {text : String}
    (nonempty : text ≠ "") (blank : isWhitespace text = true)
    (noText : builder.document.lastText? parent = none) :
    builder.step (.text text) =
      (none, { builder with
        document := builder.document.grown parent (.text text) }) := by
  have attached := attachText_eq_grown gathering.wellFormed gathering.holds
    nonempty noText
  unfold step
  rcases gathering.place with
    ⟨other, _⟩ | ⟨other, _⟩ | ⟨mode, isHead, opened⟩ | ⟨mode, isHtml⟩
  · rw [other] at mode
    contradiction
  · rw [other] at mode
    contradiction
  · have current : builder.current? = builder.head := by
      rw [current?, opened, isHead]
      rfl
    simp only [mode, inHead, current, ne_eq, not_true_eq_false, decide_false,
      Bool.and_false, Bool.false_eq_true, if_false, blank, if_true, isHead,
      attached]
  · simp only [mode, afterHead, blank, if_true, isHtml, attached]

theorem consume_leaf (gathering : Gathering builder parent) {data : NodeData}
    (leaf : IsLeaf builder.mode data)
    (noText : data.kind = .text → builder.document.lastText? parent = none)
    {rest : List Char}
    (behind : data.kind = .text → rest.head?.all (· = '<') = true) :
    builder.consume
        { rest := (treeMarkup false (.node data [])).toList ++ rest } =
      { builder with document := builder.document.grown parent data
        }.consume { rest } := by
  have going := (gathering.grow data).going
  cases leaf with
  | @doctype name mode named =>
      have written : (treeMarkup false (.node (.doctype name) [])).toList ++
          rest = "<!DOCTYPE ".toList ++ name.toList ++ ">".toList ++ rest := by
        simp [treeMarkup]
      rw [written]
      exact consume_of_content (readContent?_doctype named rest)
        (gathering.step_doctype mode name) going
  | @comment text safe =>
      have written : (treeMarkup false (.node (.comment text) [])).toList ++
          rest = "<!--".toList ++ text.toList ++ "-->".toList ++ rest := by
        simp [treeMarkup]
      rw [written]
      exact consume_of_content (readContent?_comment safe rest)
        (gathering.step_comment text) going
  | @blank text mode nonempty blank =>
      rw [treeMarkup]
      exact consume_of_content (readContent?_text nonempty (behind rfl))
        (gathering.step_blank mode nonempty blank (noText rfl)) going

/-! ### Elements of the head -/

private theorem ne_of_isHeadElement {name : String}
    (named : isHeadElement name = true) :
    name ≠ "head" ∧ name ≠ "plaintext" := by
  constructor
  · rintro rfl
    contradiction
  · rintro rfl
    contradiction

/-- The end tag of the innermost open element of the head closes it. -/
private theorem step_endTag_inHead {builder : Builder}
    (mode : builder.mode = .inHead) {element : Element}
    (current : builder.currentElement? = some element)
    (named : isHeadElement element.localName = true) :
    builder.step (.endTag element.localName) =
      (none, { builder with openNodes := builder.openNodes.tail }) := by
  have notHead := (ne_of_isHeadElement named).1
  unfold step
  simp only [mode, inHead, notHead, if_false, named, if_true, current,
    Option.any_some, decide_true]

section Element

variable {element : Element} (gathering : Gathering builder parent)
  (mode : builder.mode = .inHead)

include gathering mode

private theorem isHead : builder.head = some parent ∧
    builder.openNodes = [parent] := by
  rcases gathering.place with ⟨other, _⟩ | ⟨other, _⟩ | ⟨_, found⟩ | ⟨other, _⟩
  · cases mode.symm.trans other
  · cases mode.symm.trans other
  · exact found
  · cases mode.symm.trans other

private theorem step_startTag (spelled : Spelled element)
    (html : element.ns = .html) (named : isHeadElement element.localName = true)
    (short : 1 < builder.maxDepth) :
    builder.step (startTagOf element) =
      if endsAtOnce element then
        (none, { builder with
          document := builder.document.grown parent (.element element) })
      else
        (textSwitch? element, builder.entered parent element) := by
  obtain ⟨isHead, opened⟩ := gathering.isHead mode
  have notFull : builder.openNodes.length < builder.maxDepth := by
    rw [opened]
    exact short
  rw [← insertHtml_eq gathering.wellFormed gathering.holds spelled html notFull,
    startTagOf, spelled.lowerName html]
  unfold step
  simp only [mode, inHead, named, if_true, isHead]

private theorem step_innerText {text : String} (nonempty : text ≠ "") :
    (builder.entered parent element).step (.text text) =
      (none, { builder.entered parent element with
        document := (builder.entered parent element).document.grown
          builder.document.nodeCount (.text text) }) := by
  obtain ⟨isHead, _⟩ := gathering.isHead mode
  have new := gathering.fresh element
  have wellFormed : (builder.entered parent element).document.WellFormed :=
    new.1
  have holds : ((builder.entered parent element).document.data?
      builder.document.nodeCount).any NodeData.canHoldChildren = true :=
    new.2.2.1
  have attached := attachText_eq_grown wellFormed holds nonempty new.2.2.2
  have current : (builder.entered parent element).current? =
      some builder.document.nodeCount := rfl
  have apart : some builder.document.nodeCount ≠
      (builder.entered parent element).head := by
    intro same
    have sameNode := Option.some.inj (same.trans isHead)
    exact Nat.lt_irrefl _ (sameNode ▸ gathering.inside)
  have isMode : (builder.entered parent element).mode = .inHead := mode
  unfold step
  rw [isMode]
  simp only [inHead, current, Option.isSome_some, apart, ne_eq,
    not_false_eq_true, decide_true, Bool.and_self, if_true, attached]

/-- What is read inside an element of the head, up to its end tag. -/
private theorem consume_content
    (named : isHeadElement element.localName = true) {children : List Tree}
    (content : FitsContent element.localName children)
    (texts : HoldsTextAtMost children) (rest : List Char) :
    (builder.entered parent element).consume
        { rest := (forestMarkup (writesRawText element) children).toList ++
            ((endTagMarkup element).toList ++ rest)
          switch := textSwitch? element } =
      { builder.entered parent element with
        document := (builder.entered parent element).document.plantAll
          builder.document.nodeCount children }.consume
        { rest := (endTagMarkup element).toList ++ rest } := by
  have going : (builder.entered parent element).isStopped = false :=
    gathering.going
  cases switches : textSwitch? element with
  | some switch =>
      have notPlaintext := (ne_of_isHeadElement named).2
      refine consume_textOnly switches notPlaintext content ?_ going rest
      intro text isText
      rcases texts with empty | ⟨found, nonempty, same⟩
      · rw [isText] at empty
        contradiction
      · cases isText.symm.trans same
        exact ⟨nonempty, gathering.step_innerText mode nonempty⟩
  | none =>
      rcases texts with rfl | ⟨text, nonempty, rfl⟩
      · rfl
      · have notRaw := writesRawText_of_textSwitch? switches
        have behind : ((endTagMarkup element).toList ++ rest).head?.all
            (· = '<') = true := by
          simp [toList_endTagMarkup]
        have written : (forestMarkup (writesRawText element)
            [.node (.text text) []]).toList =
              (textMarkup false text).toList := by
          simp [forestMarkup, treeMarkup, notRaw]
        have read := readContent?_text nonempty behind
        have stepped : (builder.entered parent element).step (.text text) = _ :=
          gathering.step_innerText mode nonempty
        -- Whether the builder goes on does not depend on its document.
        have goesOn (document : Document) :
            Builder.isStopped { builder.entered parent element with document } =
              false := gathering.going
        rw [written, consume_of_content read stepped (goesOn _)]
        rfl

theorem consume_element (spelled : Spelled element)
    (html : element.ns = .html) (named : isHeadElement element.localName = true)
    {children : List Tree} (content : FitsContent element.localName children)
    (texts : HoldsTextAtMost children)
    (short : 1 < builder.maxDepth) (rest : List Char) :
    builder.consume
        { rest := (treeMarkup false (.node (.element element) children)).toList
            ++ rest } =
      { builder with
        document := builder.document.plant parent
          (.node (.element element) children) }.consume { rest } := by
  have stepped := gathering.step_startTag mode spelled html named short
  have read := readContent?_startTag spelled.safe
  rw [Document.plant]
  cases ends : endsAtOnce element with
  | true =>
      have void : isVoid element.localName = true := by
        simpa [endsAtOnce, html] using ends
      rw [ends, if_pos rfl] at stepped
      rw [content.void void, Document.plantAll, treeMarkup_of_endsAtOnce ends]
      exact consume_of_content (read rest) stepped (gathering.grow _).going
  | false =>
      rw [ends, if_neg Bool.false_ne_true] at stepped
      have closes : staysOpen element = false := by
        simp [staysOpen, (ne_of_isHeadElement named).2]
      obtain ⟨wellFormed, present, holds, _⟩ := gathering.fresh element
      obtain ⟨extended, _⟩ := wellFormed.plantAll children holds texts.sound
      have still := (extended.element? (Document.lt_of_data?_eq_some
        (Document.element?_eq_some_iff.mp present))).trans present
      have ended : Builder.step { builder.entered parent element with
          document := (builder.entered parent element).document.plantAll
            builder.document.nodeCount children }
          (.endTag element.localName) =
            (none, { builder with
              document := (builder.entered parent element).document.plantAll
                builder.document.nodeCount children }) := by
        refine step_endTag_inHead ?_ ?_ named
        · exact mode
        · exact still
      have readEnd := readContent?_endTag spelled.safe.name rest
      rw [spelled.lowerName html] at readEnd
      rw [toList_treeMarkup_element ends closes,
        consume_of_content (read _) stepped gathering.going,
        gathering.consume_content mode named content texts rest,
        consume_of_content readEnd ended gathering.going]
      rfl

end Element

end Gathering

end Builder

/-! ### Parts one after the other -/

namespace IsPart

variable {mode : InsertionMode} {tree : Tree}

theorem sound (part : IsPart mode tree) : tree.Sound := by
  cases part with
  | leaf leaf =>
      refine ⟨?_, fun _ => rfl, trivial⟩
      cases leaf <;> simp [NodeData.kind]
  | element _ _ _ _ _ texts =>
      exact ⟨by simp [NodeData.kind], by simp [NodeData.canHoldChildren],
        texts.sound⟩

theorem opens (part : IsPart mode tree) (other : tree.isText = false)
    (rest : List Char) :
    ((treeMarkup false tree).toList ++ rest).head?.all (· = '<') = true := by
  cases part with
  | leaf leaf =>
      cases leaf with
      | doctype _ _ => simp [treeMarkup]
      | comment _ => simp [treeMarkup]
      | blank _ _ _ => contradiction
  | element _ _ _ _ _ _ => simp [treeMarkup, toList_startTagMarkup]

end IsPart

/-- The parts between two tags of outer elements. -/
structure Parts (mode : InsertionMode) (trees : List Tree) : Prop where
  all : ∀ tree ∈ trees, IsPart mode tree
  apart : trees.IsChain fun left right =>
    left.isText = true → right.isText = false

namespace Parts

variable {mode : InsertionMode} {tree : Tree} {trees : List Tree}

theorem tail (parts : Parts mode (tree :: trees)) : Parts mode trees where
  all := fun other member => parts.all other (List.mem_cons_of_mem _ member)
  apart := parts.apart.of_cons

theorem sound (parts : Parts mode trees) : Tree.SoundAll trees := by
  induction trees with
  | nil => trivial
  | cons tree trees induction =>
      exact ⟨(parts.all tree List.mem_cons_self).sound, induction parts.tail⟩

/-- Behind a text there is markup. -/
private theorem opens (parts : Parts mode (tree :: trees))
    (isText : tree.isText = true) {rest : List Char}
    (behind : rest.head?.all (· = '<') = true) :
    ((forestMarkup false trees).toList ++ rest).head?.all (· = '<') = true := by
  cases trees with
  | nil => simpa [forestMarkup] using behind
  | cons next trees =>
      have part := parts.tail.all next List.mem_cons_self
      have other := (List.isChain_cons_cons.mp parts.apart).1 isText
      have opens := part.opens other ((forestMarkup false trees).toList ++ rest)
      simpa [forestMarkup] using opens

end Parts

namespace Builder.Gathering

variable {builder : Builder} {parent : NodeId}

private theorem consume_part (gathering : Gathering builder parent)
    {tree : Tree} (part : IsPart builder.mode tree)
    (short : builder.mode = .inHead → height tree < builder.maxDepth)
    (noText : tree.isText = true → builder.document.lastText? parent = none)
    {rest : List Char}
    (behind : tree.isText = true → rest.head?.all (· = '<') = true) :
    builder.consume { rest := (treeMarkup false tree).toList ++ rest } =
      { builder with document := builder.document.plant parent tree
        }.consume { rest } := by
  cases part with
  | @leaf data leaf =>
      have isText : data.kind = .text →
          Tree.isText (.node data []) = true := by
        intro kind
        cases data <;> first | rfl | contradiction
      exact gathering.consume_leaf leaf (fun kind => noText (isText kind))
        (fun kind => behind (isText kind))
  | element mode spelled html named content texts =>
      have fits := short mode
      rw [height] at fits
      exact gathering.consume_element mode spelled html named content texts
        (by omega) rest

/-- The markup of parts is consumed, and they are planted one after the
other. -/
theorem consume_parts {trees : List Tree} (gathering : Gathering builder parent)
    (parts : Parts builder.mode trees)
    (short : builder.mode = .inHead → heightAll trees < builder.maxDepth)
    (noText : (trees.head?).any Tree.isText = true →
      builder.document.lastText? parent = none)
    {rest : List Char} (behind : rest.head?.all (· = '<') = true) :
    builder.consume { rest := (forestMarkup false trees).toList ++ rest } =
      { builder with document := builder.document.plantAll parent trees
        }.consume { rest } := by
  induction trees generalizing builder with
  | nil => rfl
  | cons tree trees induction =>
      have part := parts.all tree List.mem_cons_self
      have both : builder.mode = .inHead → height tree < builder.maxDepth ∧
          heightAll trees < builder.maxDepth := by
        intro mode
        have most := short mode
        rw [heightAll] at most
        omega
      obtain ⟨extended, planted⟩ :=
        gathering.wellFormed.plant tree gathering.holds part.sound
      have first := gathering.consume_part part (fun mode => (both mode).1)
        noText fun isText => parts.opens isText behind
      have later := induction (gathering.extend extended) parts.tail
        (fun mode => (both mode).2)
        (by
          intro isText
          apply extended.wellFormed.lastText?_eq_none
          rw [planted, List.getLast?_concat, Option.any_some,
            Bool.eq_false_iff]
          intro alsoText
          cases trees with
          | nil => contradiction
          | cons next trees =>
              have other := (List.isChain_cons_cons.mp parts.apart).1 alsoText
              rw [List.head?_cons, Option.any_some, other] at isText
              contradiction)
      have written : (forestMarkup false (tree :: trees)).toList ++ rest =
          (treeMarkup false tree).toList ++
            ((forestMarkup false trees).toList ++ rest) := by
        simp [forestMarkup]
      rw [written, first, later]
      rfl

end Builder.Gathering

/-! ### Pages -/

/-- The trees of a document around its outer elements. -/
structure Page where
  prolog : List Tree
  html : Element
  before : List Tree
  head : Element
  metadata : List Tree
  between : List Tree
  body : Element
  content : List Tree

namespace Page

/-- What stands below `html`. -/
def sections (page : Page) : List Tree :=
  page.before ++ .node (.element page.head) page.metadata ::
    (page.between ++ [.node (.element page.body) page.content])

/-- What stands below the document node. -/
def trees (page : Page) : List Tree :=
  page.prolog ++ [.node (.element page.html) page.sections]

end Page

/-- An outer element of the given name whose start tag is read back. -/
structure IsOuterElement (name : String) (element : Element) : Prop where
  spelled : Spelled element
  html : element.ns = .html
  named : element.localName = name

/-- A page that is read back. -/
structure Page.Restorable (page : Page) : Prop where
  prolog : Parts .beforeHtml page.prolog
  html : IsOuterElement "html" page.html
  before : Parts .beforeHead page.before
  head : IsOuterElement "head" page.head
  metadata : Parts .inHead page.metadata
  between : Parts .afterHead page.between
  body : IsOuterElement "body" page.body
  content : FaithfulAll [] page.content

private theorem sound_element (element : Element) {children : List Tree}
    (sound : Tree.SoundAll children) :
    Tree.Sound (.node (.element element) children) :=
  ⟨by simp [NodeData.kind], by simp [NodeData.canHoldChildren], sound⟩

theorem Page.Restorable.sound {page : Page} (restorable : page.Restorable) :
    Tree.SoundAll page.trees := by
  have content := soundAll_of_faithful page.content _ restorable.content
  have behind : Tree.SoundAll
      (page.between ++ [.node (.element page.body) page.content]) :=
    Tree.soundAll_append restorable.between.sound
      ⟨sound_element page.body content, trivial⟩
  have sections : Tree.SoundAll page.sections :=
    Tree.soundAll_append restorable.before.sound
      ⟨sound_element page.head restorable.metadata.sound, behind⟩
  exact Tree.soundAll_append restorable.prolog.sound
    ⟨sound_element page.html sections, trivial⟩

namespace Builder

variable {builder : Builder} {parent : NodeId} {element : Element}

/-! ### Tags of outer elements -/

/-- A new outer element gets the attributes of its tag. -/
private theorem mergeAttributes_grown {before : Document}
    (isGrown : builder.document =
      before.grown parent (.element (.html element.localName)))
    (inside : parent < before.nodeCount) (spelled : Spelled element)
    (html : element.ns = .html) :
    builder.mergeAttributes (some before.nodeCount) (tagAttributes element) =
      { builder with document := before.grown parent (.element element) } := by
  have present : builder.document.element? before.nodeCount =
      some (.html element.localName) := by
    rw [isGrown, Document.element?_eq_some_iff, Document.data?_grown inside,
      if_pos rfl]
  have replaced : builder.document.setData before.nodeCount (.element element) =
      before.grown parent (.element element) := by
    rw [isGrown, Document.setData_grown inside]
  unfold mergeAttributes
  simp only [present, spelled.addAttributes_eq html, replaced]

namespace Gathering

variable (gathering : Gathering builder parent)

include gathering

private theorem attach_outer (name : String) :
    builder.attach parent (.element (.html name)) =
      (builder.document.nodeCount, { builder with
        document := builder.document.grown parent
          (.element (.html name)) }) :=
  attach_eq gathering.wellFormed gathering.holds (by simp [NodeData.kind])

private theorem consume_htmlTag (mode : builder.mode = .beforeHtml)
    (isNew : builder.html = none) (outer : IsOuterElement "html" element)
    (rest : List Char) :
    builder.consume { rest := (startTagMarkup element).toList ++ rest } =
      { builder with
        document := builder.document.grown parent (.element element)
        html := some builder.document.nodeCount
        mode := .beforeHead }.consume { rest } := by
  have atRoot : parent = Document.root := by
    rcases gathering.place with ⟨_, same⟩ | ⟨other, _⟩ | ⟨other, _⟩ | ⟨other, _⟩
    · exact same
    all_goals cases mode.symm.trans other
  have attached := gathering.attach_outer element.localName
  have stepped : builder.step (startTagOf element) =
      (none, { builder with
        document := builder.document.grown parent (.element element)
        html := some builder.document.nodeCount
        mode := .beforeHead }) := by
    rw [startTagOf, outer.spelled.lowerName outer.html]
    unfold step
    simp only [mode, beforeHtml, outer.named, if_true, startHtml, isNew]
    rw [outer.named, atRoot] at attached
    simp only [attached]
    rw [mergeAttributes_grown ?_ gathering.inside outer.spelled outer.html]
    · rw [outer.named, atRoot]
  exact consume_of_content (readContent?_startTag outer.spelled.safe rest)
    stepped gathering.going

private theorem consume_headTag (mode : builder.mode = .beforeHead)
    (isNew : builder.head = none) (outer : IsOuterElement "head" element)
    (rest : List Char) :
    builder.consume { rest := (startTagMarkup element).toList ++ rest } =
      { builder with
        document := builder.document.grown parent (.element element)
        head := some builder.document.nodeCount
        openNodes := [builder.document.nodeCount]
        mode := .inHead }.consume { rest } := by
  have isHtml : builder.html = some parent := by
    rcases gathering.place with ⟨other, _⟩ | ⟨_, same⟩ | ⟨other, _⟩ | ⟨other, _⟩
    · cases mode.symm.trans other
    · exact same
    all_goals cases mode.symm.trans other
  have attached := gathering.attach_outer element.localName
  have other : ("head" = "html") = False := by simp
  have stepped : builder.step (startTagOf element) =
      (none, { builder with
        document := builder.document.grown parent (.element element)
        head := some builder.document.nodeCount
        openNodes := [builder.document.nodeCount]
        mode := .inHead }) := by
    rw [startTagOf, outer.spelled.lowerName outer.html]
    unfold step
    simp only [mode, beforeHead, outer.named, other, if_true, if_false,
      startHead, isHtml, Option.isNone_some, Bool.false_eq_true, isNew,
      attachUnderHtml]
    rw [outer.named] at attached
    simp only [attached]
    rw [mergeAttributes_grown ?_ gathering.inside outer.spelled outer.html]
    · simp only [isHtml]
      rfl
    · rw [outer.named]
  exact consume_of_content (readContent?_startTag outer.spelled.safe rest)
    stepped gathering.going

omit gathering in
private theorem consume_headEnd (going : builder.isStopped = false)
    (mode : builder.mode = .inHead) (outer : IsOuterElement "head" element)
    (rest : List Char) :
    builder.consume { rest := (endTagMarkup element).toList ++ rest } =
      { builder with mode := .afterHead }.consume { rest } := by
  have stepped : builder.step (.endTag (Text.lower element.localName)) =
      (none, { builder with mode := .afterHead }) := by
    rw [outer.spelled.lowerName outer.html, outer.named]
    unfold step
    simp only [mode, inHead, if_true]
  exact consume_of_content (readContent?_endTag outer.spelled.safe.name rest)
    stepped going

private theorem consume_bodyTag (mode : builder.mode = .afterHead)
    (hasHead : builder.head.isSome = true) (isNew : builder.body = none)
    (outer : IsOuterElement "body" element) (rest : List Char) :
    builder.consume { rest := (startTagMarkup element).toList ++ rest } =
      { builder with
        document := builder.document.grown parent (.element element)
        body := some builder.document.nodeCount
        openNodes := [builder.document.nodeCount]
        mode := .inBody }.consume { rest } := by
  have isHtml : builder.html = some parent := by
    rcases gathering.place with ⟨other, _⟩ | ⟨other, _⟩ | ⟨other, _⟩ | ⟨_, same⟩
    · cases mode.symm.trans other
    · cases mode.symm.trans other
    · cases mode.symm.trans other
    · exact same
  obtain ⟨head, isHead⟩ := Option.isSome_iff_exists.mp hasHead
  have attached := gathering.attach_outer element.localName
  have other : ("body" = "html") = False := by simp
  have stepped : builder.step (startTagOf element) =
      (none, { builder with
        document := builder.document.grown parent (.element element)
        body := some builder.document.nodeCount
        openNodes := [builder.document.nodeCount]
        mode := .inBody }) := by
    rw [startTagOf, outer.spelled.lowerName outer.html]
    unfold step
    simp only [mode, afterHead, outer.named, other, if_true, if_false,
      startBody, isHead, Option.isNone_some, Bool.false_eq_true, isNew,
      attachUnderHtml, isHtml]
    rw [outer.named] at attached
    simp only [attached]
    rw [mergeAttributes_grown ?_ gathering.inside outer.spelled outer.html]
    · simp only [mode, reduceCtorEq, if_false, isHtml, isHead]
      rfl
    · rw [outer.named]
  exact consume_of_content (readContent?_startTag outer.spelled.safe rest)
    stepped gathering.going

end Gathering

/-- Inside the body the end tags of `body` and `html` do nothing. -/
private theorem consume_outerEnd (going : builder.isStopped = false)
    (mode : builder.mode = .inBody) {name : String}
    (outer : IsOuterElement name element) (isLast : name = "body" ∨ name = "html")
    (rest : List Char) :
    builder.consume { rest := (endTagMarkup element).toList ++ rest } =
      builder.consume { rest } := by
  have stepped : builder.step (.endTag (Text.lower element.localName)) =
      (none, builder) := by
    rw [outer.spelled.lowerName outer.html, outer.named]
    unfold step
    simp only [mode, inBody, bodyEndTag]
    rw [if_pos (by simpa using isLast)]
  exact consume_of_content (readContent?_endTag outer.spelled.safe.name rest)
    stepped going

/-! ### Outer elements with their content -/

/-- The markup of an outer element is its content between its tags. -/
private theorem toList_treeMarkup_outer {name : String}
    (outer : IsOuterElement name element)
    (member : name ∈ ["html", "head", "body"]) (children : List Tree)
    (rest : List Char) :
    (treeMarkup false (.node (.element element) children)).toList ++ rest =
      (startTagMarkup element).toList ++
        ((forestMarkup false children).toList ++
          ((endTagMarkup element).toList ++ rest)) := by
  have root : isRoot element = true := by
    rw [isRoot, outer.html, outer.named, List.contains_iff_mem.mpr member]
    rfl
  obtain ⟨notVoid, noSwitch⟩ := facts_of_isRoot root
  have closes : staysOpen element = false := by
    rw [staysOpen, outer.named, Bool.and_eq_false_iff]
    right
    simp only [List.mem_cons, List.not_mem_nil, or_false] at member
    rcases member with rfl | rfl | rfl <;> rfl
  rw [toList_treeMarkup_element (by simp [endsAtOnce, notVoid]) closes,
    writesRawText_of_textSwitch? noSwitch]

private theorem opens_endTag (element : Element) (rest : List Char) :
    ((endTagMarkup element).toList ++ rest).head?.all (· = '<') = true := by
  simp [toList_endTagMarkup]

private theorem Gathering.consume_head (gathering : Gathering builder parent)
    (mode : builder.mode = .beforeHead) (isNew : builder.head = none)
    (outer : IsOuterElement "head" element) {metadata : List Tree}
    (parts : Parts .inHead metadata)
    (short : heightAll metadata < builder.maxDepth) (rest : List Char) :
    builder.consume
        { rest := (treeMarkup false (.node (.element element) metadata)).toList
            ++ rest } =
      { builder with
        document := builder.document.plant parent
          (.node (.element element) metadata)
        head := some builder.document.nodeCount
        openNodes := [builder.document.nodeCount]
        mode := .afterHead }.consume { rest } := by
  obtain ⟨wellFormed, _, holds, noText⟩ := gathering.fresh element
  have inside : Gathering { builder with
      document := builder.document.grown parent (.element element)
      head := some builder.document.nodeCount
      openNodes := [builder.document.nodeCount]
      mode := .inHead } builder.document.nodeCount :=
    ⟨gathering.going, wellFormed, holds,
      Or.inr (Or.inr (Or.inl ⟨rfl, rfl, rfl⟩))⟩
  rw [toList_treeMarkup_outer outer (by simp),
    gathering.consume_headTag mode isNew outer,
    inside.consume_parts parts (fun _ => short) (fun _ => noText) (opens_endTag _ _)]
  refine consume_headEnd ?_ rfl outer rest
  exact gathering.going

private theorem Gathering.consume_body (gathering : Gathering builder parent)
    (mode : builder.mode = .afterHead) (hasHead : builder.head.isSome = true)
    (isNew : builder.body = none) (outer : IsOuterElement "body" element)
    {content : List Tree} (faithful : FaithfulAll [] content)
    (short : heightAll content < builder.maxDepth) (rest : List Char) :
    builder.consume
        { rest := (treeMarkup false (.node (.element element) content)).toList
            ++ rest } =
      { builder with
        document := builder.document.plant parent
          (.node (.element element) content)
        body := some builder.document.nodeCount
        openNodes := [builder.document.nodeCount]
        mode := .inBody }.consume { rest } := by
  obtain ⟨wellFormed, present, _, noText⟩ := gathering.fresh element
  have reading : Reading { builder with
      document := builder.document.grown parent (.element element)
      body := some builder.document.nodeCount
      openNodes := [builder.document.nodeCount]
      mode := .inBody } [] builder.document.nodeCount := by
    refine ⟨rfl, gathering.going, wellFormed, .outermost _, rfl,
      ⟨element, present⟩, ?_⟩
    simp only [inForeignContent, currentElement?, current?, List.head?_cons,
      Option.bind_some, present, Option.any_some, expectsForeign,
      List.head?_nil, Option.any_none]
    exact not_holdsForeignContent_of_html outer.html
  rw [toList_treeMarkup_outer outer (by simp),
    gathering.consume_bodyTag mode hasHead isNew outer,
    consume_forest content reading faithful (by simpa using short)
      (fun _ => noText) _ (opens_endTag _ _)]
  refine consume_outerEnd ?_ rfl outer (Or.inl rfl) rest
  exact gathering.going

/-! ### The sections and the page -/

/-- The builder has come to the body and goes on with nothing amiss. -/
structure Arrived (builder : Builder) : Prop where
  mode : builder.mode = .inBody
  going : builder.isStopped = false
  hasHead : builder.head.isSome = true
  body : ∃ node element, builder.body = some node ∧
    builder.document.element? node = some element

/-- At the end of the markup the body is there already. -/
theorem Arrived.startBody_eq (arrived : Arrived builder) :
    builder.startBody [] = builder := by
  obtain ⟨head, isHead⟩ := Option.isSome_iff_exists.mp arrived.hasHead
  obtain ⟨node, element, isBody, present⟩ := arrived.body
  have same := Document.setData_self
    (Document.element?_eq_some_iff.mp present)
  have merged : builder.mergeAttributes (some node) [] = builder := by
    unfold mergeAttributes
    simp only [present, Element.addAttributes, List.foldl_nil, same]
  unfold startBody
  simp only [isHead, Option.isNone_some, Bool.false_eq_true, if_false, isBody,
    merged, arrived.mode, if_true]

/-- Behind the body element the builder has arrived. -/
private theorem Gathering.arrived (gathering : Gathering builder parent)
    (hasHead : builder.head.isSome = true) (element : Element)
    {content : List Tree} (faithful : FaithfulAll [] content) :
    Arrived { builder with
      document := builder.document.plant parent
        (.node (.element element) content)
      body := some builder.document.nodeCount
      openNodes := [builder.document.nodeCount]
      mode := .inBody } := by
  obtain ⟨wellFormed, present, holds, _⟩ := gathering.fresh element
  have payload := Document.element?_eq_some_iff.mp present
  obtain ⟨extended, _⟩ := wellFormed.plantAll content holds
    (soundAll_of_faithful content _ faithful)
  refine ⟨rfl, gathering.going, hasHead, _, element, rfl, ?_⟩
  exact (extended.element? (Document.lt_of_data?_eq_some payload)).trans present

/-- What stands behind the head is consumed and planted. -/
private theorem Gathering.consume_behind_head
    (gathering : Gathering builder parent) (mode : builder.mode = .afterHead)
    (hasHead : builder.head.isSome = true) (noBody : builder.body = none)
    (noText : builder.document.lastText? parent = none)
    {between : List Tree} (parts : Parts .afterHead between)
    (outer : IsOuterElement "body" element) {content : List Tree}
    (faithful : FaithfulAll [] content)
    (short : heightAll content < builder.maxDepth) :
    ∃ after : Builder, Arrived after ∧
      after.document = builder.document.plantAll parent
        (between ++ [.node (.element element) content]) ∧
      ∀ rest : List Char, builder.consume
          { rest := (forestMarkup false
              (between ++ [.node (.element element) content])).toList ++ rest } =
        after.consume { rest } := by
  have isBetween : Parts builder.mode between := mode ▸ parts
  obtain ⟨extended, _⟩ := gathering.wellFormed.plantAll between gathering.holds
    parts.sound
  have later := gathering.extend extended
  refine ⟨_, later.arrived hasHead element faithful, ?_, ?_⟩
  · rw [Document.plantAll_append]
    rfl
  · intro rest
    have written : (forestMarkup false
        (between ++ [.node (.element element) content])).toList ++ rest =
          (forestMarkup false between).toList ++
            ((treeMarkup false (.node (.element element) content)).toList ++
              rest) := by
      simp [forestMarkup_append, forestMarkup]
    have outside : builder.mode ≠ .inHead := by
      rw [mode]
      decide
    rw [written, gathering.consume_parts isBetween
      (fun inHead => absurd inHead outside) (fun _ => noText)
      (by simp [treeMarkup, toList_startTagMarkup])]
    exact later.consume_body mode hasHead noBody outer faithful short rest

/-- What stands below `html` is consumed and planted. -/
private theorem Gathering.consume_sections
    (gathering : Gathering builder parent) (mode : builder.mode = .beforeHead)
    (noHead : builder.head = none) (noBody : builder.body = none)
    (noText : builder.document.lastText? parent = none) {page : Page}
    (restorable : page.Restorable)
    (short : heightAll page.sections ≤ builder.maxDepth) :
    ∃ after : Builder, Arrived after ∧
      after.document = builder.document.plantAll parent page.sections ∧
      ∀ rest : List Char, builder.consume
          { rest := (forestMarkup false page.sections).toList ++ rest } =
        after.consume { rest } := by
  have isHtml : builder.html = some parent := by
    rcases gathering.place with ⟨other, _⟩ | ⟨_, same⟩ | ⟨other, _⟩ | ⟨other, _⟩
    · cases mode.symm.trans other
    · exact same
    all_goals cases mode.symm.trans other
  simp only [Page.sections, heightAll_append, heightAll, height] at short
  have before : Parts builder.mode page.before := mode ▸ restorable.before
  obtain ⟨extended, _⟩ := gathering.wellFormed.plantAll page.before
    gathering.holds before.sound
  have first := gathering.extend extended
  have headSound := sound_element page.head restorable.metadata.sound
  obtain ⟨headExtends, headForest⟩ :=
    first.wellFormed.plant _ first.holds headSound
  have second : Gathering { builder with
      document := (builder.document.plantAll parent page.before).plant parent
        (.node (.element page.head) page.metadata)
      head := some (builder.document.plantAll parent page.before).nodeCount
      openNodes := [(builder.document.plantAll parent page.before).nodeCount]
      mode := .afterHead } parent := by
    have grown := first.extend headExtends
    exact ⟨grown.going, grown.wellFormed, grown.holds,
      Or.inr (Or.inr (Or.inr ⟨rfl, isHtml⟩))⟩
  have noTextYet := second.wellFormed.lastText?_eq_none (by
    rw [headForest, List.getLast?_concat]
    rfl)
  obtain ⟨after, arrived, document, consumed⟩ := second.consume_behind_head rfl
    rfl noBody noTextYet restorable.between restorable.body restorable.content
    (by simp only; omega)
  refine ⟨after, arrived, ?_, ?_⟩
  · rw [document, Page.sections,
      Document.plantAll_append builder.document parent page.before]
    rfl
  · intro rest
    rw [← consumed rest]
    have written : (forestMarkup false page.sections).toList ++ rest =
        (forestMarkup false page.before).toList ++
          ((treeMarkup false (.node (.element page.head) page.metadata)).toList ++
            ((forestMarkup false (page.between ++
              [.node (.element page.body) page.content])).toList ++ rest)) := by
      simp [Page.sections, forestMarkup_append, forestMarkup]
    have outside : builder.mode ≠ .inHead := by
      rw [mode]
      decide
    rw [written, gathering.consume_parts before
      (fun inHead => absurd inHead outside) (fun _ => noText)
      (by simp [treeMarkup, toList_startTagMarkup])]
    exact first.consume_head mode noHead restorable.head restorable.metadata
      (by simp only; omega) _

/-- `html` is consumed and planted with everything below it. -/
private theorem Gathering.consume_html
    (gathering : Gathering builder parent) (mode : builder.mode = .beforeHtml)
    (noHtml : builder.html = none) (noHead : builder.head = none)
    (noBody : builder.body = none) {page : Page} (restorable : page.Restorable)
    (short : heightAll page.sections ≤ builder.maxDepth) :
    ∃ after : Builder, Arrived after ∧
      after.document = builder.document.plant parent
        (.node (.element page.html) page.sections) ∧
      ∀ rest : List Char, builder.consume
          { rest := (treeMarkup false
              (.node (.element page.html) page.sections)).toList ++ rest } =
        after.consume { rest } := by
  obtain ⟨wellFormed, _, holds, noText⟩ := gathering.fresh page.html
  have inside : Gathering { builder with
      document := builder.document.grown parent (.element page.html)
      html := some builder.document.nodeCount
      mode := .beforeHead } builder.document.nodeCount :=
    ⟨gathering.going, wellFormed, holds, Or.inr (Or.inl ⟨rfl, rfl⟩)⟩
  obtain ⟨after, arrived, document, consumed⟩ :=
    inside.consume_sections rfl noHead noBody noText restorable short
  refine ⟨after, arrived, document, ?_⟩
  intro rest
  rw [toList_treeMarkup_outer restorable.html (by simp),
    gathering.consume_htmlTag mode noHtml restorable.html, consumed,
    consume_outerEnd arrived.going arrived.mode restorable.html (Or.inr rfl)]

/-- The markup of a page is consumed, and its trees are planted. -/
private theorem run_page {page : Page} (restorable : page.Restorable)
    {limit : Nat} (short : heightAll page.sections ≤ limit) :
    ∃ after : Builder, Arrived after ∧
      after.document = Document.empty.plantAll Document.root page.trees ∧
      (forDocument limit).run (forestMarkup false page.trees) = after := by
  have start : Gathering (forDocument limit) Document.root :=
    ⟨rfl, Document.wellFormed_empty, rfl, Or.inl ⟨rfl, rfl⟩⟩
  obtain ⟨extended, _⟩ := start.wellFormed.plantAll page.prolog start.holds
    restorable.prolog.sound
  have first := start.extend extended
  obtain ⟨after, arrived, document, consumed⟩ :=
    first.consume_html rfl rfl rfl rfl restorable short
  have whole : (forDocument limit).consume
      (Lexer.ofMarkup (forestMarkup false page.trees)) = after := by
    have written : (forestMarkup false page.trees).toList =
        (forestMarkup false page.prolog).toList ++
          ((treeMarkup false (.node (.element page.html) page.sections)).toList
            ++ []) := by
      simp [Page.trees, forestMarkup_append, forestMarkup]
    rw [Lexer.ofMarkup, written, start.consume_parts restorable.prolog
      InsertionMode.noConfusion (fun _ => rfl)
      (by simp [treeMarkup, toList_startTagMarkup]), consumed]
    exact consume_of_done rfl
  refine ⟨after, arrived, ?_, ?_⟩
  · rw [document, Page.trees, Document.plantAll_append]
    rfl
  · unfold run
    rw [whole]
    simp only [forDocument, Bool.false_eq_true, if_false, arrived.going,
      arrived.startBody_eq]

end Builder

/-- Parsing the markup of a page gives its trees back. -/
theorem HtmlParser.parseDocument_page {page : Page}
    (restorable : page.Restorable) (parser : HtmlParser)
    (short : heightAll page.sections ≤ parser.maxDepth) :
    ∃ document,
      (parser.parseDocument (forestMarkup false page.trees)).value =
          .ok document ∧
        document.tree? Document.root = some (.node .document page.trees) := by
  obtain ⟨after, arrived, document, run⟩ := Builder.run_page restorable short
  have accepted : after.fault? = none := by
    have going := arrived.going
    unfold Builder.fault?
    cases refusal : after.refusal with
    | none => simp [going]
    | some _ =>
        rw [Builder.isStopped, refusal] at going
        contradiction
  obtain ⟨extended, planted⟩ := Document.wellFormed_empty.plantAll page.trees
    (rfl : (Document.empty.data? Document.root).any
      NodeData.canHoldChildren = true) restorable.sound
  rw [← document] at extended planted
  have first : Document.root < Document.empty.nodeCount := Nat.zero_lt_one
  have inside := Nat.lt_of_lt_of_le first extended.nodeCount
  refine ⟨after.document, ?_, ?_⟩
  · unfold HtmlParser.parseDocument
    simp only [run, accepted]
  · rw [Document.WellFormed.tree?_eq inside, extended.wellFormed.tree_eq,
      planted, extended.data? _ first]
    rfl

end MarkupHarden.Html
