import MarkupHarden.Proofs.Html.Markup

/-!
# Writing by recursion

The serializer keeps the opening and closing steps of all pending nodes on one
list.  What it writes is nevertheless given by a plain recursion: a node by what
it holds, and what it holds by its children, one after the other.  Only one pair
of functions satisfies that recursion.
-/

namespace MarkupHarden.Html

open Dom (Document Element NodeData NodeId)

/-- Whether a node is an HTML element whose text is written as it is. -/
def HoldsRawText (document : Document) (id : NodeId) : Prop :=
  ∃ element, document.element? id = some element ∧ element.ns = .html ∧
    element.localName ∈
      ["style", "script", "xmp", "iframe", "noembed", "noframes", "plaintext"]

/-- The attributes of an element, first to last: each time a blank, the name and
the escaped value in quotes. -/
def spelledAttributes (element : Element) : String :=
  String.join (element.attributes.map fun pair =>
    " " ++ pair.1 ++ "=\"" ++
      String.ofList (CharacterReference.escapeAttribute pair.2.toList) ++ "\"")

/-- One function writes nodes and the other one what nodes hold, each by means
of the other. -/
structure WritesByRecursion (document : Document)
    (outer inner : NodeId → String) : Prop where
  content : ∀ id, inner id = String.join ((document.children id).map outer)
  absent : ∀ id, document.data? id = none → outer id = ""
  documentNode : ∀ id, document.data? id = some .document →
    outer id = inner id
  doctype : ∀ id name, document.data? id = some (.doctype name) →
    outer id = "<!DOCTYPE " ++ name ++ ">"
  voidElement : ∀ id element, document.data? id = some (.element element) →
    element.ns = .html → element.localName ∈ voidElements →
      outer id = "<" ++ element.localName ++ spelledAttributes element ++ ">"
  plaintext : ∀ id element, document.data? id = some (.element element) →
    element.ns = .html → element.localName = "plaintext" →
      outer id =
        "<" ++ element.localName ++ spelledAttributes element ++ ">" ++ inner id
  element : ∀ id element, document.data? id = some (.element element) →
    ¬(element.ns = .html ∧ element.localName ∈ voidElements) →
    ¬(element.ns = .html ∧ element.localName = "plaintext") →
      outer id =
        "<" ++ element.localName ++ spelledAttributes element ++ ">" ++
          inner id ++ ("</" ++ element.localName ++ ">")
  rawText : ∀ id text, document.data? id = some (.text text) →
    (∃ parent, document.parent? id = some parent ∧
      HoldsRawText document parent) → outer id = text
  text : ∀ id text, document.data? id = some (.text text) →
    (¬∃ parent, document.parent? id = some parent ∧
      HoldsRawText document parent) →
        outer id =
          String.ofList (CharacterReference.escapeText text.toList)
  comment : ∀ id text, document.data? id = some (.comment text) →
    outer id = "<!--" ++ text ++ "-->"
  processingInstruction : ∀ id target data,
    document.data? id = some (.processingInstruction target data) →
      outer id = "<?" ++ target ++ " " ++ data ++ ">"

variable {document : Document} {id : NodeId}

theorem writesRawText_iff {element : Element} :
    writesRawText element = true ↔ element.ns = .html ∧
      element.localName ∈ ["style", "script", "xmp", "iframe", "noembed",
        "noframes", "plaintext"] := by
  rw [writesRawText, Bool.and_eq_true, decide_eq_true_eq,
    List.contains_iff_mem]

theorem isRawText_iff :
    isRawText document id = true ↔
      ∃ parent, document.parent? id = some parent ∧
        HoldsRawText document parent := by
  simp only [isRawText, HoldsRawText, Option.any_eq_true,
    Option.bind_eq_some_iff, writesRawText_iff]
  constructor
  · rintro ⟨element, ⟨parent, hangs, present⟩, raw⟩
    exact ⟨parent, hangs, element, present, raw⟩
  · rintro ⟨parent, hangs, element, present, raw⟩
    exact ⟨element, ⟨parent, hangs, present⟩, raw⟩

theorem endsAtOnce_iff {element : Element} :
    endsAtOnce element = true ↔
      element.ns = .html ∧ element.localName ∈ voidElements := by
  rw [endsAtOnce, isVoid, Bool.and_eq_true, decide_eq_true_eq,
    List.contains_iff_mem]

theorem staysOpen_iff {element : Element} :
    staysOpen element = true ↔
      element.ns = .html ∧ element.localName = "plaintext" := by
  rw [staysOpen, Bool.and_eq_true, decide_eq_true_eq, decide_eq_true_eq]

theorem startTagMarkup_eq (element : Element) :
    startTagMarkup element =
      "<" ++ element.localName ++ spelledAttributes element ++ ">" :=
  rfl

theorem forestMarkup_eq_join (raw : Bool) (trees : List Dom.Tree) :
    forestMarkup raw trees = String.join (trees.map (treeMarkup raw)) := by
  induction trees with
  | nil => rfl
  | cons tree rest induction =>
      rw [forestMarkup, induction, List.map_cons, String.join_cons]

/-- What a node holds is written child by child. -/
theorem innerHtml_eq_join (wellFormed : document.WellFormed) (id : NodeId) :
    innerHtml document id =
      String.join ((document.children id).map (outerHtml document)) := by
  rw [innerHtml, serialize_inner wellFormed, forestMarkup_eq_join,
    Document.forest, List.map_map]
  congr 1
  apply List.map_congr_left
  intro child member
  rw [outerHtml, serialize_outer wellFormed (wellFormed.child_lt member),
    isRawText_child wellFormed member]
  rfl

/-- The markup of a node, given the markup of what it holds. -/
def markupAround (document : Document) (id : NodeId) (content : String) :
    NodeData → String
  | .document => content
  | .doctype name => "<!DOCTYPE " ++ name ++ ">"
  | .element element =>
      startTagMarkup element ++
        (if endsAtOnce element then ""
        else
          content ++ (if staysOpen element then "" else endTagMarkup element))
  | .text text => textMarkup (isRawText document id) text
  | .comment text => "<!--" ++ text ++ "-->"
  | .processingInstruction target data => "<?" ++ target ++ " " ++ data ++ ">"

theorem outerHtml_eq_markupAround (wellFormed : document.WellFormed)
    {data : NodeData} (present : document.data? id = some data) :
    outerHtml document id =
      markupAround document id (innerHtml document id) data := by
  rw [outerHtml,
    serialize_outer wellFormed (Document.lt_of_data?_eq_some present),
    wellFormed.tree_eq, present, Option.getD_some, innerHtml,
    serialize_inner wellFormed, Document.element?, present]
  cases data <;> rfl

theorem writesByRecursion (wellFormed : document.WellFormed) :
    WritesByRecursion document (outerHtml document) (innerHtml document) where
  content := innerHtml_eq_join wellFormed
  absent := by
    intro id absent
    have nothing : openingOf document id = ("", []) := by
      rw [openingOf, absent]
    simp only [outerHtml, serialize, writeSteps, nothing, List.append_nil]
    cases 2 * document.nodeCount <;> rfl
  documentNode := fun id present => outerHtml_eq_markupAround wellFormed present
  doctype := fun id name present =>
    outerHtml_eq_markupAround wellFormed present
  voidElement := by
    intro id element present html isVoid
    rw [outerHtml_eq_markupAround wellFormed present, markupAround,
      startTagMarkup_eq, endsAtOnce_iff.mpr ⟨html, isVoid⟩]
    exact String.append_empty
  plaintext := by
    intro id element present html isPlaintext
    have ample : endsAtOnce element = false := by
      rw [endsAtOnce, isPlaintext, html]
      rfl
    rw [outerHtml_eq_markupAround wellFormed present, markupAround,
      startTagMarkup_eq, ample, staysOpen_iff.mpr ⟨html, isPlaintext⟩]
    simp
  element := by
    intro id element present notVoid notPlaintext
    rw [← endsAtOnce_iff, Bool.not_eq_true] at notVoid
    rw [← staysOpen_iff, Bool.not_eq_true] at notPlaintext
    rw [outerHtml_eq_markupAround wellFormed present, markupAround,
      startTagMarkup_eq, notVoid, notPlaintext]
    simp [endTagMarkup, String.append_assoc]
  rawText := by
    intro id text present raw
    rw [outerHtml_eq_markupAround wellFormed present, markupAround,
      isRawText_iff.mpr raw]
    rfl
  text := by
    intro id text present notRaw
    rw [← isRawText_iff, Bool.not_eq_true] at notRaw
    rw [outerHtml_eq_markupAround wellFormed present, markupAround, notRaw]
    rfl
  comment := fun id text present =>
    outerHtml_eq_markupAround wellFormed present
  processingInstruction := fun id target data present =>
    outerHtml_eq_markupAround wellFormed present

namespace WritesByRecursion

variable {outer inner otherOuter otherInner : NodeId → String}

/-- A node is written in the same way as soon as what it holds is. -/
private theorem outer_eq (writes : WritesByRecursion document outer inner)
    (other : WritesByRecursion document otherOuter otherInner)
    (same : inner id = otherInner id) : outer id = otherOuter id := by
  cases present : document.data? id with
  | none => rw [writes.absent id present, other.absent id present]
  | some data =>
      cases data with
      | document =>
          rw [writes.documentNode id present, other.documentNode id present,
            same]
      | doctype name =>
          rw [writes.doctype id name present, other.doctype id name present]
      | element element =>
          by_cases isVoid : element.ns = .html ∧
              element.localName ∈ voidElements
          · rw [writes.voidElement id element present isVoid.1 isVoid.2,
              other.voidElement id element present isVoid.1 isVoid.2]
          · by_cases staysOpen : element.ns = .html ∧
                element.localName = "plaintext"
            · rw [writes.plaintext id element present staysOpen.1 staysOpen.2,
                other.plaintext id element present staysOpen.1 staysOpen.2,
                same]
            · rw [writes.element id element present isVoid staysOpen,
                other.element id element present isVoid staysOpen, same]
      | text text =>
          by_cases raw : ∃ parent, document.parent? id = some parent ∧
              HoldsRawText document parent
          · rw [writes.rawText id text present raw,
              other.rawText id text present raw]
          · rw [writes.text id text present raw,
              other.text id text present raw]
      | comment text =>
          rw [writes.comment id text present, other.comment id text present]
      | processingInstruction target data =>
          rw [writes.processingInstruction id target data present,
            other.processingInstruction id target data present]

/-- The recursion determines what is written. -/
theorem unique (writes : WritesByRecursion document outer inner)
    (other : WritesByRecursion document otherOuter otherInner)
    (wellFormed : document.WellFormed) :
    outer = otherOuter ∧ inner = otherInner := by
  have same : ∀ id, inner id = otherInner id := by
    intro id
    refine wellFormed.induction_below
      (motive := fun id => inner id = otherInner id) ?_ id
    intro id below
    rw [writes.content, other.content]
    congr 1
    apply List.map_congr_left
    intro child member
    exact writes.outer_eq other (below child member)
  exact ⟨funext fun id => writes.outer_eq other (same id), funext same⟩

end WritesByRecursion

/-- Writing any node comes to an end, an unknown one included. -/
theorem finishes_outerHtml (wellFormed : document.WellFormed) (id : NodeId) :
    ∃ count, Finishes document [.opening id] count (outerHtml document id) := by
  cases present : document.data? id with
  | some data =>
      have inside := Document.lt_of_data?_eq_some present
      obtain ⟨count, _, finishes⟩ := finishes_outer wellFormed inside
      rw [← serialize_outer wellFormed inside] at finishes
      exact ⟨count, finishes⟩
  | none =>
      have nothing : openingOf document id = ("", []) := by
        rw [openingOf, present]
      have finishes : Finishes document [.opening id] (0 + 1)
          ((openingOf document id).1 ++ "") := by
        apply Finishes.opening
        rw [nothing]
        exact .done
      rw [nothing] at finishes
      rw [(writesByRecursion wellFormed).absent id present]
      exact ⟨1, finishes⟩

theorem finishes_innerHtml (wellFormed : document.WellFormed) (id : NodeId) :
    ∃ count, Finishes document ((document.children id).map .opening) count
      (innerHtml document id) := by
  obtain ⟨count, _, finishes⟩ := finishes_inner wellFormed id
  rw [← serialize_inner wellFormed] at finishes
  exact ⟨count, finishes⟩

/-- In a well-formed document the writing of any node and of its content comes
to an end, and what is written is what the recursion says, which says it of one
pair of functions only. -/
theorem serialize_byRecursion (wellFormed : document.WellFormed) :
    (∀ id,
      (∃ count, Finishes document [.opening id] count
        (outerHtml document id)) ∧
      ∃ count, Finishes document ((document.children id).map .opening) count
        (innerHtml document id)) ∧
    WritesByRecursion document (outerHtml document) (innerHtml document) ∧
    ∀ outer inner, WritesByRecursion document outer inner →
      outer = outerHtml document ∧ inner = innerHtml document := by
  have writes := writesByRecursion wellFormed
  refine ⟨fun id => ⟨?_, ?_⟩, writes, fun outer inner other => ?_⟩
  · exact finishes_outerHtml wellFormed id
  · exact finishes_innerHtml wellFormed id
  · exact other.unique writes wellFormed

/-- A section with two attributes, a script, a line break, a text and an
unclosed plaintext. -/
def mixedSection : Document :=
  let division : Element :=
    { localName := "div"
      ns := .html
      attributes := [("title", "a\"b"), ("id", "c&d")] }
  let document := Document.empty.grown Document.root (.element division)
  let document := document.grown 1 (.element (.html "script"))
  let document := document.grown 2 (.text "a<b")
  let document := document.grown 1 (.element (.html "br"))
  let document := document.grown 1 (.text "c<d")
  let document := document.grown 1 (.element (.html "plaintext"))
  document.grown 6 (.text "e&f")

theorem serialize_byRecursion_mixedSection :
    mixedSection.WellFormed ∧
      (∃ count, Finishes mixedSection [.opening 0] count
        ("<div title=\"a&quot;b\" id=\"c&amp;d\"><script>a<b</script>" ++
          "<br>c&lt;d<plaintext>e&f</div>")) ∧
      outerHtml mixedSection 0 = innerHtml mixedSection 0 := by
  have wellFormed : mixedSection.WellFormed :=
    Document.wellFormed_of_hasOrderedLinks (by decide)
  have written : outerHtml mixedSection 0 =
      "<div title=\"a&quot;b\" id=\"c&amp;d\"><script>a<b</script>" ++
        "<br>c&lt;d<plaintext>e&f</div>" := by
    decide +kernel
  obtain ⟨finishes, writes, _⟩ := serialize_byRecursion wellFormed
  rw [← written]
  exact ⟨wellFormed, (finishes 0).1, writes.documentNode 0 (by decide)⟩

end MarkupHarden.Html
