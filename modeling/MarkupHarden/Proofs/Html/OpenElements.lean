import Mathlib.Tactic.MkIffOfInductiveProp
import MarkupHarden.Html.TreeBuilder

/-!
# Searching the open elements

The searches of a builder look at the names and namespaces of its open elements
only.  `Settled` says of a list of open elements that the start tag of a given
name closes none of them, and `closeImplied_of_settled` draws the conclusion
for the builder.
-/

namespace MarkupHarden.Html

open Dom (Document Element NodeId)

namespace Builder

/-! ### Verdicts on elements -/

/-- What an element means to a search for a name. -/
def nameVerdict (name : String) (boundaries : List String)
    (element : Element) : Verdict :=
  if Text.sameIgnoringCase element.localName name then .target
  else if element.ns = .html && boundaries.contains element.localName then
    .boundary
  else .pass

/-- What an element means to a search for list items. -/
def itemVerdict (names : List String) (element : Element) : Verdict :=
  if element.ns ≠ .html then .pass
  else if names.contains element.localName then .target
  else if !isTransparentToItems element.localName &&
      isSpecial element.localName then .boundary
  else .pass

variable {document : Document} {node : NodeId} {element : Element}

theorem judgeName_eq (present : document.element? node = some element)
    (name : String) (boundaries : List String) :
    judgeName document name boundaries node =
      nameVerdict name boundaries element := by
  rw [judgeName, present]
  rfl

theorem judgeItem_eq (present : document.element? node = some element)
    (names : List String) :
    judgeItem document names node = itemVerdict names element := by
  rw [judgeItem, present]
  rfl

/-! ### Searches without a target -/

/-- The open nodes with the elements at all but the outermost of them. -/
inductive Stack (document : Document) : List NodeId → List Element → Prop where
  | outermost (node : NodeId) : Stack document [node] []
  | inner {node : NodeId} {element : Element} {nodes : List NodeId}
      {elements : List Element} :
      document.element? node = some element →
      Stack document nodes elements →
      Stack document (node :: nodes) (element :: elements)

theorem Stack.length_eq {nodes : List NodeId} {elements : List Element}
    (stack : Stack document nodes elements) :
    nodes.length = elements.length + 1 := by
  induction stack with
  | outermost node => rfl
  | inner _ _ induction => rw [List.length_cons, induction, List.length_cons]

theorem Stack.mono {after : Document} {nodes : List NodeId}
    {elements : List Element} (stack : Stack document nodes elements)
    (same : ∀ node element, document.element? node = some element →
      after.element? node = some element) : Stack after nodes elements := by
  induction stack with
  | outermost node => exact .outermost node
  | inner present _ induction => exact .inner (same _ _ present) induction

/-- The innermost of several open elements is the first open node, and another
one is open around it. -/
theorem Stack.exists_outer {nodes : List NodeId} {elements : List Element}
    (stack : Stack document nodes (element :: elements)) :
    ∃ node outer rest, nodes = node :: outer :: rest ∧
      document.element? node = some element := by
  cases stack with
  | inner present outerStack =>
      cases outerStack with
      | outermost outer => exact ⟨_, outer, [], rfl, present⟩
      | inner _ _ => exact ⟨_, _, _, rfl, present⟩

/-- Whether a search finds no target among open elements. -/
def misses (verdict : Element → Verdict) : List Element → Bool
  | [] => true
  | element :: rest =>
      match verdict element with
      | .target => false
      | .boundary => true
      | .pass => misses verdict rest

theorem misses_of_forall {verdict : Element → Verdict} {elements : List Element}
    (noTarget : ∀ element ∈ elements, verdict element ≠ .target) :
    misses verdict elements = true := by
  induction elements with
  | nil => rfl
  | cons element rest induction =>
      have here := noTarget element List.mem_cons_self
      have later := induction fun other member =>
        noTarget other (List.mem_cons_of_mem _ member)
      rw [misses]
      split
      · contradiction
      · rfl
      · exact later

theorem closeTarget?_of_misses {judge : NodeId → Verdict}
    {verdict : Element → Verdict} {nodes : List NodeId}
    {elements : List Element} (stack : Stack document nodes elements)
    (judged : ∀ node element, document.element? node = some element →
      judge node = verdict element)
    (missed : misses verdict elements = true) :
    closeTarget? judge nodes = none := by
  induction stack with
  | outermost node => rfl
  | @inner node element nodes elements present stack induction =>
      rw [misses] at missed
      cases stack with
      | outermost outer =>
          rw [closeTarget?, judged _ _ present]
          · cases verdictIs : verdict element with
            | target =>
                rw [verdictIs] at missed
                contradiction
            | boundary => rfl
            | pass => rfl
          · simp
      | inner outerPresent outerStack =>
          rw [closeTarget?, judged _ _ present]
          · cases verdictIs : verdict element with
            | target =>
                rw [verdictIs] at missed
                contradiction
            | boundary => rfl
            | pass =>
                rw [verdictIs] at missed
                exact induction missed
          · simp

/-! ### Start tags that close nothing -/

/-- The innermost elements that a start tag closes. -/
def closedBy (name : String) : List String :=
  if name = "option" then ["option"]
  else if name = "optgroup" then ["option", "optgroup"]
  else if isHeading name then ["h1", "h2", "h3", "h4", "h5", "h6"]
  else []

/-- The start tag of `name` closes none of the open elements. -/
@[mk_iff]
structure Settled (elements : List Element) (name : String) : Prop where
  anchor : name = "a" →
    misses (nameVerdict "a" anchorBoundaries) elements = true
  item : name = "li" → misses (itemVerdict ["li"]) elements = true
  description : name = "dd" ∨ name = "dt" →
    misses (itemVerdict ["dd", "dt"]) elements = true
  current : ∀ element, elements.head? = some element → element.ns = .html →
    element.localName ∉ closedBy name
  paragraph : closesParagraph name = true ∨ isHeading name = true →
    misses (nameVerdict "p" paragraphBoundaries) elements = true

instance (elements : List Element) (name : String) :
    Decidable (Settled elements name) :=
  have : Decidable (∀ element, elements.head? = some element →
      element.ns = .html → element.localName ∉ closedBy name) :=
    inferInstanceAs (Decidable (∀ element ∈ elements.head?,
      element.ns = .html → element.localName ∉ closedBy name))
  decidable_of_iff' _ (settled_iff elements name)

variable {builder : Builder} {elements : List Element}

private theorem closeNamed_of_misses
    (stack : Stack builder.document builder.openNodes elements)
    {name : String} {boundaries : List String}
    (missed : misses (nameVerdict name boundaries) elements = true) :
    builder.closeNamed name boundaries = builder := by
  rw [closeNamed, closing?, closeTarget?_of_misses stack
    (fun _ _ present => judgeName_eq present name boundaries) missed]
  rfl

private theorem closeItem_of_misses
    (stack : Stack builder.document builder.openNodes elements)
    {names : List String}
    (missed : misses (itemVerdict names) elements = true) :
    builder.closeItem names = builder := by
  rw [closeItem, closeTarget?_of_misses stack
    (fun _ _ present => judgeItem_eq present names) missed]
  rfl

private theorem closeCurrent_of_not_mem
    (stack : Stack builder.document builder.openNodes elements)
    {names : List String}
    (other : ∀ element, elements.head? = some element → element.ns = .html →
      element.localName ∉ names) :
    builder.closeCurrent names = builder := by
  rw [closeCurrent]
  split
  next node outer rest isOpen =>
    rw [isOpen] at stack
    cases stack with
    | inner present _ =>
        rw [present, if_neg]
        have notNamed := other _ rfl
        simpa using notNamed
  next => rfl

theorem closeImplied_of_settled
    (stack : Stack builder.document builder.openNodes elements)
    {name : String} (settled : Settled elements name) :
    builder.closeImplied name = builder := by
  have first :
      (if name = "a" then builder.closeNamed "a" anchorBoundaries
      else if name = "li" then builder.closeItem ["li"]
      else if name = "dd" || name = "dt" then builder.closeItem ["dd", "dt"]
      else if name = "option" then builder.closeCurrent ["option"]
      else if name = "optgroup" then
        builder.closeCurrent ["option", "optgroup"]
      else if isHeading name then
        builder.closeParagraph.closeCurrent ["h1", "h2", "h3", "h4", "h5", "h6"]
      else builder) = builder := by
    split
    next isAnchor => exact closeNamed_of_misses stack (settled.anchor isAnchor)
    split
    next isItem => exact closeItem_of_misses stack (settled.item isItem)
    split
    next isDescription =>
      exact closeItem_of_misses stack
        (settled.description (by simpa using isDescription))
    split
    next isOption =>
      exact closeCurrent_of_not_mem stack
        (by simpa [closedBy, isOption] using settled.current)
    split
    next isGroup =>
      exact closeCurrent_of_not_mem stack
        (by simpa [closedBy, isGroup] using settled.current)
    split
    next notOption notGroup headed =>
      have noParagraph : builder.closeParagraph = builder :=
        closeNamed_of_misses stack (settled.paragraph (Or.inr headed))
      rw [noParagraph]
      exact closeCurrent_of_not_mem stack
        (by simpa [closedBy, notOption, notGroup, headed] using
          settled.current)
    rfl
  rw [closeImplied, first]
  split
  next closes =>
    exact closeNamed_of_misses stack (settled.paragraph (Or.inl closes))
  next => rfl

/-! ### Closing the innermost element -/

private theorem nameVerdict_self (name : String) (boundaries : List String)
    (element : Element) (same : Text.sameIgnoringCase element.localName name) :
    nameVerdict name boundaries element = .target := by
  rw [nameVerdict, if_pos same]

theorem closing?_current {outer : NodeId} {rest : List NodeId}
    (isOpen : builder.openNodes = node :: outer :: rest)
    (present : builder.document.element? node = some element)
    {name : String} (same : Text.sameIgnoringCase element.localName name)
    (boundaries : List String) :
    builder.closing? name boundaries = some (outer :: rest) := by
  rw [closing?, isOpen, closeTarget?, judgeName_eq present,
    nameVerdict_self name boundaries element same]
  simp

/-- An end tag closes what its name finds among the open elements. -/
theorem bodyEndTag_of_closing {name : String} {rest : List NodeId}
    (found : ∀ boundaries, builder.closing? name boundaries = some rest)
    (notOuter : name ≠ "body" ∧ name ≠ "html") (notBreak : name ≠ "br") :
    builder.bodyEndTag name = { builder with openNodes := rest } := by
  have notMissing : ¬(decide (name = "p") &&
      (builder.closing? "p" paragraphBoundaries).isNone) = true := by
    rw [Bool.and_eq_true, decide_eq_true_eq]
    rintro ⟨rfl, missing⟩
    rw [found] at missing
    contradiction
  rw [bodyEndTag, if_neg (by simp [notOuter]), if_neg notBreak,
    if_neg notMissing, found]

/-- An end tag closes the innermost element when it bears its name. -/
theorem bodyEndTag_current {outer : NodeId} {rest : List NodeId}
    (isOpen : builder.openNodes = node :: outer :: rest)
    (present : builder.document.element? node = some element)
    {name : String} (same : Text.sameIgnoringCase element.localName name)
    (notOuter : name ≠ "body" ∧ name ≠ "html") (notBreak : name ≠ "br") :
    builder.bodyEndTag name = { builder with openNodes := outer :: rest } :=
  bodyEndTag_of_closing (closing?_current isOpen present same) notOuter notBreak

end Builder

end MarkupHarden.Html
