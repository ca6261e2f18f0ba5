import MarkupHarden.Proofs.Html.OpenElements
import MarkupHarden.Proofs.Html.Placement
import MarkupHarden.Proofs.Html.TextContent

/-!
# Reading content back

A tree is `Faithful` below some open elements when its markup, read there, gives
the tree again: every start tag closes nothing and belongs to the namespace that
is expected, every end tag closes its own element, and text and comments hold
nothing that ends them early.  The markup of faithful trees is consumed tree by
tree, and each tree is added to the document as it was written.
-/

namespace MarkupHarden.Html

open Dom (Document Element NodeData NodeId Tree)

/-! ### Faithful trees -/

/-- What the children of an element of the given name may be: none below void
elements, and at most one text where text is read in a mode of its own. -/
structure FitsContent (name : String) (children : List Tree) : Prop where
  void : isVoid name = true → children = []
  text : ∀ mode, textModeOf? name = some mode → HoldsText name mode children

/-- Whether the innermost of the open elements holds foreign content. -/
def expectsForeign (elements : List Element) : Bool :=
  elements.head?.any holdsForeignContent

/-- The start tag of an element adds it below the innermost of the open
elements, and its end tag closes it again. -/
inductive Stays (elements : List Element) (element : Element) : Prop where
  | html : element.ns = .html → expectsForeign elements = false →
      element.localName ∉
        ["html", "body", "head", "frameset", "svg", "math", "plaintext"] →
      Builder.Settled elements element.localName →
      Stays elements element
  | entry : element.ns ≠ .html → expectsForeign elements = false →
      element.localName = entryName element.ns →
      Stays elements element
  | foreign : element.ns ≠ .html → expectsForeign elements = true →
      elements.head?.map Element.ns = some element.ns →
      breaksOut (Text.lower element.localName) (tagAttributes element) =
        false →
      Text.lower element.localName ≠ "html" →
      Stays elements element

mutual

/-- A tree that is read back below the open elements, innermost first. -/
def Faithful (elements : List Element) : Tree → Prop
  | .node (.element element) children =>
      Spelled element ∧ Stays elements element ∧
        (element.ns = .html → FitsContent element.localName children) ∧
          FaithfulAll (element :: elements) children
  | .node (.text text) children => text ≠ "" ∧ children = []
  | .node (.comment text) children => IsCommentText text ∧ children = []
  | _ => False

/-- Trees that are read back next to each other: no two texts are
neighbours. -/
def FaithfulAll (elements : List Element) : List Tree → Prop
  | [] => True
  | tree :: rest =>
      Faithful elements tree ∧
        (tree.isText = true → (rest.head?).any Tree.isText = false) ∧
          FaithfulAll elements rest

end

mutual

/-- How many elements lie within each other. -/
def height : Tree → Nat
  | .node (.element _) children => heightAll children + 1
  | _ => 0

/-- The height of the highest tree. -/
def heightAll : List Tree → Nat
  | [] => 0
  | tree :: rest => max (height tree) (heightAll rest)

end

theorem heightAll_le {trees : List Tree} {bound : Nat}
    (low : ∀ tree ∈ trees, height tree ≤ bound) : heightAll trees ≤ bound := by
  induction trees with
  | nil => exact Nat.zero_le bound
  | cons tree rest induction =>
      exact Nat.max_le.mpr ⟨low tree List.mem_cons_self,
        induction fun other member => low other (List.mem_cons_of_mem _ member)⟩

theorem heightAll_append (first second : List Tree) :
    heightAll (first ++ second) =
      max (heightAll first) (heightAll second) := by
  induction first with
  | nil => simp [heightAll]
  | cons tree rest induction =>
      rw [List.cons_append, heightAll, heightAll, induction, Nat.max_assoc]

mutual

theorem sound_of_faithful : ∀ (tree : Tree) (elements : List Element),
    Faithful elements tree → tree.Sound
  | .node (.element _) children, _, ⟨_, _, _, faithful⟩ =>
      ⟨by simp [NodeData.kind], by simp [NodeData.canHoldChildren],
        soundAll_of_faithful children _ faithful⟩
  | .node (.text _) _, _, ⟨_, leaf⟩ =>
      ⟨by simp [NodeData.kind], fun _ => leaf, leaf ▸ trivial⟩
  | .node (.comment _) _, _, ⟨_, leaf⟩ =>
      ⟨by simp [NodeData.kind], fun _ => leaf, leaf ▸ trivial⟩

theorem soundAll_of_faithful : ∀ (trees : List Tree) (elements : List Element),
    FaithfulAll elements trees → Tree.SoundAll trees
  | [], _, _ => trivial
  | tree :: rest, _, ⟨faithful, _, faithfulRest⟩ =>
      ⟨sound_of_faithful tree _ faithful,
        soundAll_of_faithful rest _ faithfulRest⟩

end

/-! ### Tags of spelled elements -/

namespace Spelled

variable {element : Element}

theorem lowerName (spelled : Spelled element) (html : element.ns = .html) :
    Text.lower element.localName = element.localName := by
  have name := spelled.name
  rw [html] at name
  exact name

theorem addAttributes_eq (spelled : Spelled element)
    (html : element.ns = .html) :
    (Element.html element.localName).addAttributes (tagAttributes element) =
      element := by
  have same := spelled.elementOf_eq
  rw [html, elementOf_html, spelled.lowerName html] at same
  exact same

end Spelled

/-- The end tag of an element closes it, if it has one. -/
theorem Stays.closable {elements : List Element} {element : Element}
    (stays : Stays elements element) (ample : endsAtOnce element = false)
    (spelled : Spelled element) :
    Text.lower element.localName ∉ ["html", "body", "br"] := by
  cases stays with
  | html html _ notReserved _ =>
      rw [spelled.lowerName html]
      simp only [List.mem_cons, List.not_mem_nil, or_false, not_or]
        at notReserved ⊢
      refine ⟨notReserved.1, notReserved.2.1, ?_⟩
      intro isBreak
      rw [endsAtOnce, html, isBreak] at ample
      contradiction
  | entry notHtml _ isEntry =>
      rw [isEntry]
      cases ns : element.ns with
      | html => exact absurd ns notHtml
      | svg => decide
      | mathml => decide
  | foreign _ _ _ stays notHtml =>
      simp only [List.mem_cons, List.not_mem_nil, or_false, not_or]
      refine ⟨notHtml, ?_, ?_⟩
      · intro isBody
        rw [isBody] at stays
        contradiction
      · intro isBreak
        rw [isBreak] at stays
        contradiction

namespace Builder

/-! ### Reading one piece -/

/-- The builder with a new open element. -/
def entered (builder : Builder) (parent : NodeId) (element : Element) :
    Builder :=
  { builder with
    document := builder.document.grown parent (.element element)
    openNodes := builder.document.nodeCount :: builder.openNodes }

/-- The start tag of an HTML element adds it, and opens it unless it is void. -/
theorem insertHtml_eq {builder : Builder} {parent : NodeId}
    (wellFormed : builder.document.WellFormed)
    (holds : (builder.document.data? parent).any
      NodeData.canHoldChildren = true)
    {element : Element} (spelled : Spelled element) (html : element.ns = .html)
    (short : builder.openNodes.length < builder.maxDepth) :
    builder.insertHtml (some parent) element.localName
        (tagAttributes element) =
      if endsAtOnce element then
        (none, { builder with
          document := builder.document.grown parent (.element element) })
      else
        (textSwitch? element, builder.entered parent element) := by
  have attached := attach_eq wellFormed holds
    (by simp [NodeData.kind] : (NodeData.element element).kind ≠ .document)
  have opened : Builder.openNode { builder with
      document := builder.document.grown parent (.element element) }
        builder.document.nodeCount = (true, builder.entered parent element) :=
    openNode_eq short
  have ends : endsAtOnce element = isVoid element.localName := by
    simp [endsAtOnce, html]
  rw [ends]
  simp only [insertHtml, spelled.addAttributes_eq html, attached, opened,
    if_true]

/-- Text is read in the mode that its element sets, up to the end tag. -/
theorem consume_textOnly {builder : Builder} {node : NodeId}
    {element : Element} {switch : TextSwitch}
    (isSwitch : textSwitch? element = some switch)
    (notPlaintext : element.localName ≠ "plaintext") {children : List Tree}
    (content : FitsContent element.localName children)
    (step_text : ∀ text, children = [.node (.text text) []] →
      text ≠ "" ∧ builder.step (.text text) =
        (none, { builder with
          document := builder.document.grown node (.text text) }))
    (going : builder.isStopped = false) (rest : List Char) :
    builder.consume
        { rest := (forestMarkup (writesRawText element) children).toList ++
            ((endTagMarkup element).toList ++ rest)
          switch := some switch } =
      { builder with document := builder.document.plantAll node children
        }.consume { rest := (endTagMarkup element).toList ++ rest } := by
  have holds := content.text switch.mode (mode_of_textSwitch? isSwitch)
  rcases next_textContent isSwitch notPlaintext holds rest with
    ⟨nothing, read⟩ | ⟨text, _, rfl, read⟩
  · rcases holds with rfl | ⟨text, rfl, _⟩
    · exact consume_congr read
    · exact absurd (nothing text rfl) (step_text text rfl).1
  · exact consume_of_next read (step_text text rfl).2 going

/-- A builder that reads the content of an element, with the elements that are
open inside it. -/
structure Reading (builder : Builder) (elements : List Element)
    (current : NodeId) : Prop where
  mode : builder.mode = .inBody
  going : builder.isStopped = false
  wellFormed : builder.document.WellFormed
  stack : Stack builder.document builder.openNodes elements
  isCurrent : builder.current? = some current
  isElement : ∃ element, builder.document.element? current = some element
  foreign : builder.inForeignContent = expectsForeign elements

namespace Reading

variable {builder : Builder} {elements : List Element} {current : NodeId}

theorem holds (reading : Reading builder elements current) :
    (builder.document.data? current).any NodeData.canHoldChildren = true := by
  obtain ⟨element, present⟩ := reading.isElement
  rw [Document.element?_eq_some_iff.mp present]
  rfl

theorem inside (reading : Reading builder elements current) :
    current < builder.document.nodeCount := by
  obtain ⟨element, present⟩ := reading.isElement
  exact Document.lt_of_data?_eq_some (Document.element?_eq_some_iff.mp present)

/-- Reading goes on in a document that has grown below the current node. -/
theorem extend (reading : Reading builder elements current)
    {after : Document} (extended : builder.document.Extends current after) :
    Reading { builder with document := after } elements current := by
  have same : ∀ node element, builder.document.element? node = some element →
      after.element? node = some element := by
    intro node element present
    have old := Document.lt_of_data?_eq_some
      (Document.element?_eq_some_iff.mp present)
    rw [extended.element? old, present]
  obtain ⟨element, present⟩ := reading.isElement
  refine ⟨reading.mode, reading.going, extended.wellFormed,
    reading.stack.mono same, reading.isCurrent, ⟨element, same _ _ present⟩, ?_⟩
  have isCurrent : builder.openNodes.head? = some current := reading.isCurrent
  rw [← reading.foreign]
  simp only [inForeignContent, currentElement?, current?, isCurrent,
    Option.bind_some, same _ _ present, present]

/-- Reading goes on inside a new element. -/
theorem enter (reading : Reading builder elements current)
    (element : Element) :
    Reading (builder.entered current element) (element :: elements)
      builder.document.nodeCount := by
  have grown := reading.extend
    (Document.Extends.grown reading.wellFormed reading.holds (.element element))
  have isNew : (builder.document.grown current (.element element)).element?
      builder.document.nodeCount = some element := by
    rw [Document.element?_eq_some_iff, Document.data?_grown reading.inside,
      if_pos rfl]
  refine ⟨grown.mode, grown.going, grown.wellFormed, .inner isNew grown.stack,
    rfl, ⟨element, isNew⟩, ?_⟩
  simp only [inForeignContent, currentElement?, current?, entered,
    List.head?_cons, Option.bind_some, isNew, expectsForeign]

theorem step_eq (reading : Reading builder elements current) (token : Token) :
    builder.step token = builder.inBody token := by
  rw [step, reading.mode]

private theorem insertForeign_eq (reading : Reading builder elements current)
    {element : Element} (spelled : Spelled element)
    (short : builder.openNodes.length < builder.maxDepth) :
    builder.insertForeign (Text.lower element.localName)
        (tagAttributes element) element.ns false =
      builder.entered current element := by
  have opened : Builder.openNode { builder with
      document := builder.document.grown current (.element element) }
        builder.document.nodeCount = (true, builder.entered current element) :=
    openNode_eq short
  have isElement := spelled.elementOf_eq
  have attached := attach_eq reading.wellFormed reading.holds
    (by simp [NodeData.kind] : (NodeData.element element).kind ≠ .document)
  unfold elementOf at isElement
  simp only [insertForeign, isElement, reading.isCurrent, Option.getD_some,
    attached, opened, Bool.false_eq_true, if_false]

/-- The innermost open element is the first of the elements. -/
private theorem currentElement?_eq (reading : Reading builder elements current)
    {element : Element} (isFirst : elements.head? = some element) :
    builder.currentElement? = some element := by
  have stack := reading.stack
  obtain ⟨rest, rfl⟩ := List.head?_eq_some_iff.mp isFirst
  obtain ⟨node, outer, nodes, opened, present⟩ := stack.exists_outer
  rw [currentElement?, current?, opened]
  exact present

/-- The start tag of an element that stays adds it. -/
theorem step_startTag (reading : Reading builder elements current)
    {element : Element} (spelled : Spelled element)
    (stays : Stays elements element)
    (short : builder.openNodes.length < builder.maxDepth) :
    builder.step (startTagOf element) =
      if endsAtOnce element then
        (none, { builder with
          document := builder.document.grown current (.element element) })
      else
        (textSwitch? element, builder.entered current element) := by
  have foreign := reading.foreign
  have opensForeign : element.ns ≠ .html →
      endsAtOnce element = false ∧ textSwitch? element = none := by
    intro notHtml
    simp [endsAtOnce, textSwitch?, notHtml]
  rw [reading.step_eq, startTagOf, inBody, bodyStartTag, foreign]
  cases stays with
  | html html notForeign notReserved settled =>
      simp only [List.mem_cons, List.not_mem_nil, or_false, not_or]
        at notReserved
      rw [notForeign, spelled.lowerName html]
      simp only [Bool.false_eq_true, if_false, htmlStartTag, notReserved,
        Bool.or_self, decide_false,
        closeImplied_of_settled reading.stack settled, reading.isCurrent]
      exact insertHtml_eq reading.wellFormed reading.holds spelled html short
  | entry notHtml notForeign isEntry =>
      have inserted := reading.insertForeign_eq spelled short
      obtain ⟨ample, noSwitch⟩ := opensForeign notHtml
      rw [notForeign, ample, noSwitch, ← inserted]
      rw [isEntry]
      cases ns : element.ns with
      | html => exact absurd ns notHtml
      | svg => rfl
      | mathml => rfl
  | foreign notHtml isForeign sameNs staysIn _ =>
      have inserted := reading.insertForeign_eq spelled short
      obtain ⟨ample, noSwitch⟩ := opensForeign notHtml
      obtain ⟨outer, isFirst, isNs⟩ := Option.map_eq_some_iff.mp sameNs
      rw [isForeign, ample, noSwitch, staysIn,
        reading.currentElement?_eq isFirst, Option.map_some, isNs,
        Option.getD_some]
      simp only [Bool.false_eq_true, if_true, if_false, inserted]

/-- The end tag of the innermost open element closes it. -/
theorem step_endTag {element : Element}
    (reading : Reading builder (element :: elements) current)
    (closable : Text.lower element.localName ∉ ["html", "body", "br"]) :
    builder.step (.endTag (Text.lower element.localName)) =
      (none, { builder with openNodes := builder.openNodes.tail }) := by
  simp only [List.mem_cons, List.not_mem_nil, or_false, not_or] at closable
  have same : Text.sameIgnoringCase element.localName
      (Text.lower element.localName) := by
    simp [Text.sameIgnoringCase, Text.lower_lower]
  obtain ⟨node, outer, rest, nodes, present⟩ := reading.stack.exists_outer
  rw [reading.step_eq, inBody, bodyEndTag_current nodes present same
    ⟨closable.2.1, closable.1⟩ closable.2.2, nodes]
  rfl

theorem step_text (reading : Reading builder elements current) {text : String}
    (nonempty : text ≠ "") (noText : builder.document.lastText? current = none) :
    builder.step (.text text) =
      (none, { builder with
        document := builder.document.grown current (.text text) }) := by
  rw [reading.step_eq, inBody, reading.isCurrent,
    attachText_eq_grown reading.wellFormed reading.holds nonempty noText]

theorem step_comment (reading : Reading builder elements current)
    (text : String) :
    builder.step (.comment text) =
      (none, { builder with
        document := builder.document.grown current (.comment text) }) := by
  rw [reading.step_eq, inBody, reading.isCurrent, attachComment,
    attach_eq reading.wellFormed reading.holds (by simp [NodeData.kind])]

theorem consume_startTag (reading : Reading builder elements current)
    {element : Element} (spelled : Spelled element)
    (stays : Stays elements element)
    (short : builder.openNodes.length < builder.maxDepth) (rest : List Char) :
    builder.consume { rest := (startTagMarkup element).toList ++ rest } =
      if endsAtOnce element then
        { builder with
          document := builder.document.grown current (.element element)
          }.consume { rest }
      else
        (builder.entered current element).consume
          { rest, switch := textSwitch? element } := by
  have stepped := reading.step_startTag spelled stays short
  have read := readContent?_startTag spelled.safe rest
  cases ends : endsAtOnce element with
  | true =>
      rw [ends, if_pos rfl] at stepped
      rw [if_pos rfl]
      exact consume_of_content read stepped
        (reading.extend (.grown reading.wellFormed reading.holds _)).going
  | false =>
      rw [ends, if_neg Bool.false_ne_true] at stepped
      rw [if_neg Bool.false_ne_true]
      exact consume_of_content read stepped (reading.enter element).going

theorem consume_endTag {element : Element}
    (reading : Reading builder (element :: elements) current)
    (tagName : IsTagName element.localName)
    (closable : Text.lower element.localName ∉ ["html", "body", "br"])
    (rest : List Char) :
    builder.consume { rest := (endTagMarkup element).toList ++ rest } =
      { builder with openNodes := builder.openNodes.tail }.consume
        { rest } :=
  consume_of_content (readContent?_endTag tagName rest)
    (reading.step_endTag closable) reading.going

/-- The content of an element, up to its end tag, is consumed and planted. -/
private theorem consume_content {element : Element}
    (reading : Reading builder (element :: elements) current)
    (notPlaintext : element.ns = .html → element.localName ≠ "plaintext")
    (empty : builder.document.forest current = []) {children : List Tree}
    (content : element.ns = .html → FitsContent element.localName children)
    {above : List Element} (faithful : FaithfulAll above children)
    (inside : ∀ rest : List Char, rest.head?.all (· = '<') = true →
      builder.consume { rest := (forestMarkup false children).toList ++ rest } =
        { builder with document := builder.document.plantAll current children
          }.consume { rest })
    (rest : List Char) :
    builder.consume
        { rest := (forestMarkup (writesRawText element) children).toList ++
            ((endTagMarkup element).toList ++ rest)
          switch := textSwitch? element } =
      { builder with document := builder.document.plantAll current children
        }.consume { rest := (endTagMarkup element).toList ++ rest } := by
  cases switches : textSwitch? element with
  | some switch =>
      have html := (textSwitch?_eq_some_iff.mp switches).1
      have noText := reading.wellFormed.lastText?_eq_none (by rw [empty]; rfl)
      refine consume_textOnly switches (notPlaintext html) (content html)
        ?_ reading.going rest
      rintro text rfl
      obtain ⟨⟨nonempty, _⟩, _⟩ := faithful
      exact ⟨nonempty, reading.step_text nonempty noText⟩
  | none =>
      rw [writesRawText_of_textSwitch? switches]
      exact inside _ (by simp [toList_endTagMarkup])

/-- An element is consumed and planted when its content is. -/
theorem consume_element (reading : Reading builder elements current)
    {element : Element} (spelled : Spelled element)
    (stays : Stays elements element)
    (short : builder.openNodes.length < builder.maxDepth)
    {children : List Tree}
    (content : element.ns = .html → FitsContent element.localName children)
    (faithful : FaithfulAll (element :: elements) children)
    (inside : ∀ rest : List Char, rest.head?.all (· = '<') = true →
      (builder.entered current element).consume
          { rest := (forestMarkup false children).toList ++ rest } =
        { builder.entered current element with
          document := (builder.entered current element).document.plantAll
            builder.document.nodeCount children }.consume { rest })
    (rest : List Char) :
    builder.consume
        { rest := (treeMarkup false (.node (.element element) children)).toList
            ++ rest } =
      { builder with
        document := builder.document.plant current
          (.node (.element element) children) }.consume { rest } := by
  have started := reading.consume_startTag spelled stays short
  rw [Document.plant]
  cases ends : endsAtOnce element with
  | true =>
      have html : element.ns = .html ∧ isVoid element.localName = true := by
        simpa [endsAtOnce] using ends
      rw [(content html.1).void html.2, Document.plantAll,
        treeMarkup_of_endsAtOnce ends, started, if_pos ends]
  | false =>
      have notPlaintext : element.ns = .html →
          element.localName ≠ "plaintext" := by
        intro html isPlaintext
        cases stays with
        | html _ _ notReserved _ => exact notReserved (by simp [isPlaintext])
        | entry notHtml _ _ => exact notHtml html
        | foreign notHtml _ _ _ _ => exact notHtml html
      have closes : staysOpen element = false := by
        simpa [staysOpen] using notPlaintext
      have entered := reading.enter element
      obtain ⟨extended, _⟩ := entered.wellFormed.plantAll children
        entered.holds (soundAll_of_faithful children _ faithful)
      have ended := (entered.extend extended).consume_endTag spelled.safe.name
        (stays.closable ends spelled) rest
      have empty : (builder.entered current element).document.forest
          builder.document.nodeCount = [] :=
        Document.forest_grown_self reading.inside _
      have filled := entered.consume_content notPlaintext empty content faithful
        inside rest
      rw [toList_treeMarkup_element ends closes, started,
        if_neg (by simp [ends]), filled, ended]
      rfl

end Reading

/-! ### Reading whole trees -/

private theorem opens_of_not_isText {tree : Tree} {elements : List Element}
    (faithful : Faithful elements tree) (other : tree.isText = false)
    (rest : List Char) :
    ((treeMarkup false tree).toList ++ rest).head?.all (· = '<') = true := by
  obtain ⟨data, children⟩ := tree
  cases data with
  | element element => simp [treeMarkup, toList_startTagMarkup]
  | comment text => simp [treeMarkup]
  | text text => contradiction
  | document => exact faithful.elim
  | doctype name => exact faithful.elim
  | processingInstruction target data => exact faithful.elim

private theorem opens_of_forest {trees : List Tree} {elements : List Element}
    (faithful : FaithfulAll elements trees)
    (other : (trees.head?).any Tree.isText = false)
    {rest : List Char} (behind : rest.head?.all (· = '<') = true) :
    ((forestMarkup false trees).toList ++ rest).head?.all (· = '<') = true := by
  cases trees with
  | nil => simpa [forestMarkup] using behind
  | cons tree trees =>
      have opens := opens_of_not_isText faithful.1 (by simpa using other)
        ((forestMarkup false trees).toList ++ rest)
      simpa [forestMarkup] using opens

mutual

/-- The markup of a tree is consumed, and the tree is planted. -/
theorem consume_tree : ∀ (tree : Tree) {builder : Builder}
    {elements : List Element} {current : NodeId},
    Reading builder elements current →
    Faithful elements tree →
    elements.length + height tree < builder.maxDepth →
    (tree.isText = true → builder.document.lastText? current = none) →
    ∀ rest : List Char,
      (tree.isText = true → rest.head?.all (· = '<') = true) →
      builder.consume { rest := (treeMarkup false tree).toList ++ rest } =
        { builder with document := builder.document.plant current tree
          }.consume { rest }
  | .node data children, builder, elements, current, reading, faithful, short,
      noText, rest, behind => by
      cases data with
      | text text =>
          obtain ⟨nonempty, rfl⟩ := faithful
          rw [treeMarkup, Document.plant, Document.plantAll]
          exact consume_of_content (readContent?_text nonempty (behind rfl))
            (reading.step_text nonempty (noText rfl))
            (reading.extend (.grown reading.wellFormed reading.holds _)).going
      | comment text =>
          obtain ⟨safe, rfl⟩ := faithful
          have read := readContent?_comment safe rest
          have written : (treeMarkup false (.node (.comment text) [])).toList ++
              rest = "<!--".toList ++ text.toList ++ "-->".toList ++ rest := by
            simp [treeMarkup]
          rw [written, Document.plant, Document.plantAll]
          exact consume_of_content read (reading.step_comment text)
            (reading.extend (.grown reading.wellFormed reading.holds _)).going
      | element element =>
          obtain ⟨spelled, stays, content, faithfulChildren⟩ := faithful
          rw [height] at short
          have notFull : builder.openNodes.length < builder.maxDepth := by
            rw [reading.stack.length_eq]
            omega
          have inside : ∀ rest : List Char, rest.head?.all (· = '<') = true →
              (builder.entered current element).consume
                  { rest := (forestMarkup false children).toList ++ rest } =
                { builder.entered current element with
                  document :=
                    (builder.entered current element).document.plantAll
                      builder.document.nodeCount children }.consume
                  { rest } := by
            intro rest opens
            refine consume_forest children (reading.enter element)
              faithfulChildren ?_ ?_ rest opens
            · rw [List.length_cons]
              change _ < builder.maxDepth
              omega
            · intro _
              apply (reading.enter element).wellFormed.lastText?_eq_none
              have empty : (builder.entered current element).document.forest
                  builder.document.nodeCount = [] :=
                Document.forest_grown_self reading.inside _
              rw [empty]
              rfl
          exact reading.consume_element spelled stays notFull content
            faithfulChildren inside rest
      | document => exact faithful.elim
      | doctype name => exact faithful.elim
      | processingInstruction target data => exact faithful.elim

/-- The markup of trees is consumed, and they are planted one after the
other. -/
theorem consume_forest : ∀ (trees : List Tree) {builder : Builder}
    {elements : List Element} {current : NodeId},
    Reading builder elements current →
    FaithfulAll elements trees →
    elements.length + heightAll trees < builder.maxDepth →
    ((trees.head?).any Tree.isText = true →
      builder.document.lastText? current = none) →
    ∀ rest : List Char, rest.head?.all (· = '<') = true →
      builder.consume { rest := (forestMarkup false trees).toList ++ rest } =
        { builder with document := builder.document.plantAll current trees
          }.consume { rest }
  | [], builder, elements, current, reading, _, _, _, rest, _ => by
      rfl
  | tree :: trees, builder, elements, current, reading, faithfulAll, short,
      noText, rest, behind => by
      obtain ⟨faithful, apart, faithfulRest⟩ := faithfulAll
      rw [heightAll] at short
      have sound := sound_of_faithful tree _ faithful
      obtain ⟨extended, planted⟩ :=
        reading.wellFormed.plant tree reading.holds sound
      have first := consume_tree tree reading faithful (by omega)
        noText ((forestMarkup false trees).toList ++ rest)
        (fun text => opens_of_forest faithfulRest (apart text) behind)
      have later := consume_forest trees (reading.extend extended) faithfulRest
        (by
          have := short
          simp only
          omega)
        (by
          intro text
          have other : tree.isText = false := by
            rw [Bool.eq_false_iff]
            intro isText
            rw [apart isText] at text
            contradiction
          apply extended.wellFormed.lastText?_eq_none
          rw [planted, List.getLast?_concat]
          exact other)
        rest behind
      have written : (forestMarkup false (tree :: trees)).toList ++ rest =
          (treeMarkup false tree).toList ++
            ((forestMarkup false trees).toList ++ rest) := by
        simp [forestMarkup]
      rw [written, first, later]
      rfl

end

end Builder

end MarkupHarden.Html
