import MarkupHarden.Proofs.Dom.Growth
import MarkupHarden.Proofs.Html.Spelling

/-!
# Names of elements

What a builder does with an element depends on its name and namespace only.
`isRoot` picks out the elements that a document has once, and `Follows` compares
a document with a later one in which every element still bears its name.
-/

namespace MarkupHarden.Html

open Dom (Document Element Namespace NodeId)

/-- The HTML elements that a document has once. -/
def isRoot (element : Element) : Bool :=
  element.ns = .html && ["html", "head", "body"].contains element.localName

/-- The element by which a namespace is entered. -/
def entryName : Namespace → String
  | .html => "html"
  | .svg => "svg"
  | .mathml => "math"

theorem html_of_isRoot {element : Element} (root : isRoot element = true) :
    element.ns = .html := by
  rw [isRoot, Bool.and_eq_true, decide_eq_true_eq] at root
  exact root.1

/-- A root is not void, and its content is no text. -/
theorem facts_of_isRoot {element : Element}
    (root : isRoot element = true) :
    isVoid element.localName = false ∧ textSwitch? element = none := by
  simp only [isRoot, Bool.and_eq_true, List.contains_iff_mem] at root
  simp only [textSwitch?]
  generalize element.localName = name at root
  obtain ⟨_, member⟩ := root
  simp only [List.mem_cons, List.not_mem_nil, or_false] at member
  rcases member with rfl | rfl | rfl
  · exact ⟨by decide, by split <;> rfl⟩
  · exact ⟨by decide, by split <;> rfl⟩
  · exact ⟨by decide, by split <;> rfl⟩

theorem not_holdsForeignContent_of_html {element : Element}
    (html : element.ns = .html) : holdsForeignContent element = false := by
  simp [holdsForeignContent, html]

/-- An element has one name. -/
theorem isHtmlElement_inj {document : Document} {id : NodeId}
    {first second : String}
    (isFirst : document.isHtmlElement id first = true)
    (isSecond : document.isHtmlElement id second = true) : first = second := by
  obtain ⟨element, present, named⟩ := (Option.any_eq_true _ _).mp isFirst
  rw [Document.isHtmlElement, present] at isSecond
  simp only [Option.any_some, Element.isHtml, Bool.and_eq_true,
    decide_eq_true_eq] at named isSecond
  exact named.2.symm.trans isSecond.2

/-! ### Elements of the same name -/

/-- Two elements of the same name. -/
def SameName (first second : Element) : Prop :=
  first.ns = second.ns ∧ first.localName = second.localName

namespace SameName

variable {first second : Element}

theorem holdsForeignContent (same : SameName first second) :
    holdsForeignContent first = holdsForeignContent second := by
  simp [Html.holdsForeignContent, isIntegrationPoint, same.1, same.2]

theorem isRoot (same : SameName first second) :
    isRoot first = isRoot second := by
  simp [Html.isRoot, same.1, same.2]

theorem isHtml (same : SameName first second) (name : String) :
    first.isHtml name = second.isHtml name := by
  simp [Element.isHtml, same.1, same.2]

theorem textSwitch?_eq (same : SameName first second) :
    textSwitch? first = textSwitch? second := by
  simp [textSwitch?, same.1, same.2]

end SameName

theorem sameName_addAttributes (element : Element)
    (attributes : TagAttributes) :
    SameName (element.addAttributes attributes) element := by
  induction attributes generalizing element with
  | nil => exact ⟨rfl, rfl⟩
  | cons pair attributes induction =>
      have rest := induction (element.addAttribute pair.1 pair.2).2
      have one : SameName (element.addAttribute pair.1 pair.2).2 element := by
        unfold Element.addAttribute
        split
        · exact ⟨rfl, rfl⟩
        · exact ⟨rfl, rfl⟩
      exact ⟨rest.1.trans one.1, rest.2.trans one.2⟩

/-! ### Later documents -/

/-- Every element of a document is still one of that name in a later one. -/
def Follows (before after : Document) : Prop :=
  ∀ node element, before.element? node = some element →
    ∃ later, after.element? node = some later ∧ SameName later element

theorem follows_grown {document : Document} {parent : NodeId}
    (inside : parent < document.nodeCount) (data : Dom.NodeData) :
    Follows document (document.grown parent data) := by
  intro node element present
  have old := Document.lt_of_data?_eq_some
    (Document.element?_eq_some_iff.mp present)
  refine ⟨element, ?_, rfl, rfl⟩
  rw [Document.element?_grown_of_lt inside old]
  exact present

theorem follows_setData_element {document : Document} {node : NodeId}
    {element changed : Element}
    (present : document.element? node = some element)
    (same : SameName changed element) :
    Follows document (document.setData node (.element changed)) := by
  intro other old found
  rw [Document.element?_setData_element present]
  split
  next atNode =>
    rw [← atNode, present] at found
    cases found
    exact ⟨changed, rfl, same⟩
  next => exact ⟨old, found, rfl, rfl⟩

end MarkupHarden.Html
