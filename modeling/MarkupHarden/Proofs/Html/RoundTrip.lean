import MarkupHarden.Html.Parser
import MarkupHarden.Proofs.Html.Rereading

/-!
# Parsing undoes serialization

A tame forest is one that HTML content can consist of: every element stands
where its own start tag would put it, and text and comments hold nothing that
ends them early.  Such a forest is faithful, so that its markup is consumed tree
by tree, and each tree is added to the document as it was written.
-/

namespace MarkupHarden

open Dom (Document Element NodeData NodeId Tree)

namespace Html

/-! ### Tame forests -/

/-- An HTML element whose tags are read back as they are. -/
@[mk_iff]
structure Plain (element : Element) : Prop where
  html : element.ns = .html
  safe : TagSafe element
  lowerName : Text.lower element.localName = element.localName
  lowerKeys : ∀ pair ∈ element.attributes, Text.lower pair.1 = pair.1
  notReserved : element.localName ∉
    ["html", "body", "head", "frameset", "svg", "math", "plaintext"]

instance (element : Element) : Decidable (Plain element) :=
  decidable_of_iff' _ (plain_iff element)

/-- An element of the given name may stand below elements of the names `above`,
innermost first. -/
@[mk_iff]
structure Fits (above : List String) (name : String) : Prop where
  anchor : name = "a" → "a" ∉ above
  paragraph : closesParagraph name = true ∨ isHeading name = true →
    "p" ∉ above
  item : name ∈ ["li", "dd", "dt"] →
    ∀ other ∈ above, other ∉ ["li", "dd", "dt"]
  heading : isHeading name = true → (above.head?).any isHeading = false
  option : name ∈ ["option", "optgroup"] → above.head? ≠ some "option"
  group : name = "optgroup" → above.head? ≠ some "optgroup"

instance (above : List String) (name : String) : Decidable (Fits above name) :=
  decidable_of_iff' _ (fits_iff above name)

mutual

/-- A tree that is read back below elements of the names `above`. -/
def Tame (above : List String) : Tree → Prop
  | .node (.element element) children =>
      Plain element ∧ Fits above element.localName ∧
        FitsContent element.localName children ∧
          TameAll (element.localName :: above) children
  | .node (.text text) children => text ≠ "" ∧ children = []
  | .node (.comment text) children => IsCommentText text ∧ children = []
  | _ => False

/-- Trees that are read back next to each other: no two texts are
neighbours. -/
def TameAll (above : List String) : List Tree → Prop
  | [] => True
  | tree :: rest =>
      Tame above tree ∧
        (tree.isText = true → (rest.head?).any Tree.isText = false) ∧
          TameAll above rest

end

/-! ### Tags of plain elements -/

namespace Plain

variable {element : Element}

theorem spelled (plain : Plain element) : Spelled element where
  safe := plain.safe
  name := by
    rw [plain.lowerName, plain.html]
    rfl
  keys := by
    intro pair member
    rw [plain.lowerKeys pair member, plain.html]
    rfl

theorem holdsForeignContent (plain : Plain element) :
    holdsForeignContent element = false :=
  not_holdsForeignContent_of_html plain.html

end Plain

private theorem expectsForeign_of_plain {elements : List Element}
    (plain : ∀ element ∈ elements, Plain element) :
    expectsForeign elements = false := by
  cases elements with
  | nil => rfl
  | cons element rest =>
      exact (plain element List.mem_cons_self).holdsForeignContent

/-! ### A start tag closes nothing -/

private theorem nameVerdict_ne_target {elements : List Element}
    (plain : ∀ element ∈ elements, Plain element) {name : String}
    (boundaries : List String) (lower : Text.lower name = name)
    (absent : name ∉ elements.map Element.localName) :
    ∀ element ∈ elements,
      Builder.nameVerdict name boundaries element ≠ .target := by
  intro element member target
  unfold Builder.nameVerdict at target
  split at target
  next same =>
    rw [Text.sameIgnoringCase, beq_iff_eq, lower,
      (plain element member).lowerName] at same
    exact absent (List.mem_map.mpr ⟨element, member, same⟩)
  next => split at target <;> contradiction

private theorem itemVerdict_ne_target {elements : List Element}
    {names : List String}
    (absent : ∀ name ∈ elements.map Element.localName, name ∉ names) :
    ∀ element ∈ elements, Builder.itemVerdict names element ≠ .target := by
  intro element member target
  have notNamed := absent _ (List.mem_map.mpr ⟨element, member, rfl⟩)
  unfold Builder.itemVerdict at target
  split at target
  · contradiction
  · split at target
    next named => exact notNamed (List.contains_iff_mem.mp named)
    next => split at target <;> contradiction

theorem Fits.settled {elements : List Element} {name : String}
    (fits : Fits (elements.map Element.localName) name)
    (plain : ∀ element ∈ elements, Plain element) :
    Builder.Settled elements name where
  anchor := fun isAnchor => Builder.misses_of_forall
    (nameVerdict_ne_target plain _ (by decide) (fits.anchor isAnchor))
  item := fun isItem => Builder.misses_of_forall
    (itemVerdict_ne_target fun other member => by
      have apart := fits.item (by simp [isItem]) other member
      simp only [List.mem_cons, not_or] at apart
      simp [apart.1])
  description := fun isDescription => Builder.misses_of_forall
    (itemVerdict_ne_target fun other member => by
      have apart := fits.item (by
        rcases isDescription with rfl | rfl <;> simp) other member
      simp only [List.mem_cons, not_or] at apart
      simp [apart.2.1, apart.2.2])
  paragraph := fun closes => Builder.misses_of_forall
    (nameVerdict_ne_target plain _ (by decide) (fits.paragraph closes))
  current := by
    intro element isFirst _ closed
    have first : (elements.map Element.localName).head? =
        some element.localName := by
      rw [List.head?_map, isFirst]
      rfl
    unfold Builder.closedBy at closed
    split at closed
    next isOption =>
      rw [List.mem_singleton] at closed
      exact fits.option (by simp [isOption]) (by rw [first, closed])
    next =>
      split at closed
      next isGroup =>
        rcases List.mem_cons.mp closed with isOption | both
        · exact fits.option (by simp [isGroup]) (by rw [first, isOption])
        · exact fits.group isGroup
            (by rw [first, List.mem_singleton.mp both])
      next =>
        split at closed
        next headed =>
          have notHeading := fits.heading headed
          rw [first, Option.any_some, isHeading,
            List.contains_iff_mem.mpr closed] at notHeading
          contradiction
        next => contradiction

/-! ### Tame trees are faithful -/

private theorem plain_cons {element : Element} {elements : List Element}
    (first : Plain element) (plain : ∀ element ∈ elements, Plain element) :
    ∀ other ∈ element :: elements, Plain other := by
  intro other member
  rcases List.mem_cons.mp member with rfl | old
  · exact first
  · exact plain other old

mutual

theorem faithful_of_tame : ∀ (tree : Tree) {elements : List Element},
    (∀ element ∈ elements, Plain element) →
    Tame (elements.map Element.localName) tree → Faithful elements tree
  | .node (.element _) children, _, plain, ⟨first, fits, content, tame⟩ =>
      ⟨first.spelled,
        .html first.html (expectsForeign_of_plain plain) first.notReserved
          (fits.settled plain),
        fun _ => content,
        faithfulAll_of_tame children (plain_cons first plain) tame⟩
  | .node (.text _) _, _, _, tame => tame
  | .node (.comment _) _, _, _, tame => tame

theorem faithfulAll_of_tame : ∀ (trees : List Tree) {elements : List Element},
    (∀ element ∈ elements, Plain element) →
    TameAll (elements.map Element.localName) trees →
    FaithfulAll elements trees
  | [], _, _, _ => trivial
  | tree :: rest, _, plain, ⟨tame, apart, tameRest⟩ =>
      ⟨faithful_of_tame tree plain tame, apart,
        faithfulAll_of_tame rest plain tameRest⟩

end

namespace Builder

/-- Building starts inside an element that holds HTML content. -/
private theorem reading_forFragment {document : Document}
    (wellFormed : document.WellFormed) {context : NodeId} {element : Element}
    (present : document.element? context = some element)
    (html : holdsForeignContent element = false) (maxDepth : Nat) :
    Reading (forFragment document context maxDepth) [] context where
  mode := rfl
  going := rfl
  wellFormed := wellFormed
  stack := .outermost context
  isCurrent := rfl
  isElement := ⟨element, present⟩
  foreign := by
    simp [inForeignContent, currentElement?, current?, forFragment, present,
      html, expectsForeign]

end Builder

/-- Parsing the markup of a tame forest into an empty element gives the forest
back, and leaves everything else as it was. -/
theorem parseFragment_innerHtml {source : Document}
    (sourceWellFormed : source.WellFormed) {id : NodeId} {data : NodeData}
    {trees : List Tree} (held : source.tree? id = some (.node data trees))
    (escaped : (source.element? id).any writesRawText = false)
    (tame : TameAll [] trees) {target : Document}
    (targetWellFormed : target.WellFormed) {context : NodeId}
    {element : Element} (present : target.element? context = some element)
    (html : holdsForeignContent element = false)
    (noSwitch : textSwitch? element = none)
    (empty : target.children context = []) (parser : HtmlParser)
    (shallow : heightAll trees < parser.maxDepth) :
    ∃ after,
      (parser.parseFragment (innerHtml source id) target context).value =
        (.ok (), after) ∧
      after.tree? context = some (.node (.element element) trees) ∧
      target.Extends context after := by
  have inside : id < source.nodeCount := by
    rw [Document.tree?] at held
    split at held
    next contained => exact Document.contains_iff.mp contained
    next => contradiction
  have same : source.forest id = trees := by
    rw [Document.WellFormed.tree?_eq inside, sourceWellFormed.tree_eq,
      Option.some.injEq, Tree.node.injEq] at held
    exact held.2
  have markup : innerHtml source id = forestMarkup false trees := by
    rw [innerHtml, serialize_inner sourceWellFormed, escaped, same]
  have reading :=
    Builder.reading_forFragment targetWellFormed present html parser.maxDepth
  have noForest : target.forest context = [] := by
    rw [Document.forest, empty]
    rfl
  have faithful : FaithfulAll [] trees :=
    faithfulAll_of_tame trees (List.forall_mem_nil _) tame
  obtain ⟨extended, planted⟩ := targetWellFormed.plantAll trees reading.holds
    (soundAll_of_faithful trees _ faithful)
  have read := Builder.consume_forest trees reading faithful
    (by
      rw [List.length_nil, Nat.zero_add]
      exact shallow)
    (fun _ => targetWellFormed.lastText?_eq_none (by
      rw [noForest]
      rfl)) [] rfl
  have ended : ∀ builder : Builder, builder.consume { rest := [] } = builder :=
    fun builder => Builder.consume_of_done rfl
  have switch : (Builder.forFragment target context
      parser.maxDepth).currentElement?.bind textSwitch? = none := by
    simp [Builder.currentElement?, Builder.current?, Builder.forFragment,
      present, noSwitch]
  have run : (Builder.forFragment target context parser.maxDepth).run
      (innerHtml source id) =
        { Builder.forFragment target context parser.maxDepth with
          document := target.plantAll context trees } := by
    rw [List.append_nil, ended] at read
    rw [Builder.run, switch, markup]
    exact read
  refine ⟨target.plantAll context trees, ?_, ?_, extended⟩
  · have isElement : (target.element? context).isNone = false := by
      rw [present]
      rfl
    rw [HtmlParser.parseFragment, isElement, if_neg Bool.false_ne_true]
    simp only [run]
    rfl
  · have contained := Nat.lt_of_lt_of_le reading.inside extended.nodeCount
    have data := extended.data? context reading.inside
    rw [Document.element?_eq_some_iff.mp present] at data
    rw [Document.WellFormed.tree?_eq contained, extended.wellFormed.tree_eq,
      planted, noForest, data]
    rfl

/-- A paragraph with an attribute, a comment and a style sheet. -/
private def sample : List Tree :=
  [.node (.element
      { localName := "p", ns := .html, attributes := [("title", "\"&\"")] })
      [.node (.text "1 < 2") []],
    .node (.comment "-") [],
    .node (.element (.html "style")) [.node (.text "a > b") []]]

private theorem tame_sample : TameAll [] sample := by
  have paragraph : FitsContent "p" [.node (.text "1 < 2") []] :=
    ⟨by decide, fun mode found => by
      have none : textModeOf? "p" = none := by decide
      rw [none] at found
      contradiction⟩
  have style : FitsContent "style" [.node (.text "a > b") []] :=
    ⟨by decide, fun mode _ => Or.inr ⟨"a > b", rfl, fun _ =>
      not_holdsEndTag_of_not_mem (by decide)⟩⟩
  have leaf : ∀ {above : List String} {text : String}, text ≠ "" →
      TameAll above [.node (.text text) []] :=
    fun nonempty => ⟨⟨nonempty, rfl⟩, fun _ => rfl, trivial⟩
  exact ⟨⟨by decide, by decide, paragraph, leaf (by decide)⟩, by decide,
    ⟨by decide, rfl⟩, by decide,
    ⟨by decide, by decide, style, leaf (by decide)⟩, by decide, trivial⟩

theorem parseFragment_innerHtml_sample :
    ∃ after,
      (({} : HtmlParser).parseFragment
        (innerHtml (Document.empty.plantAll Document.root sample)
          Document.root)
        (Document.empty.grown Document.root (.element (.html "div"))) 1).value =
          (.ok (), after) ∧
      after.tree? 1 = some (.node (.element (.html "div")) sample) ∧
      (Document.empty.grown Document.root (.element (.html "div"))).Extends 1
        after :=
  have source : (Document.empty.plantAll Document.root sample).tree?
      Document.root = some (.node .document sample) := rfl
  parseFragment_innerHtml (Document.wellFormed_of_hasOrderedLinks (by decide))
    source rfl tame_sample (Document.wellFormed_of_hasOrderedLinks (by decide))
    rfl rfl rfl rfl _ (by decide)

end Html

end MarkupHarden
