import MarkupHarden.Proofs.Html.Placement
import MarkupHarden.Proofs.Html.TextContent

/-!
# What markup puts where

`Belongs` says which elements a tag can put below another element, and `Stands`
says it of a node of a document, together with what a comment and the content
of a text-only element can be.  A document in which every node stands keeps
this when a node is added that fits its parent.
-/

namespace MarkupHarden.Html

open Dom (Document Element NodeData NodeId)

/-! ### Elements -/

/-- A tag can put the element below `outer`, as far as the names and namespaces
of the two tell. -/
structure Belongs (outer : Option Element) (element : Element) : Prop where
  spelled : Spelled element
  name : element.ns = .html → element.localName ∉ ["svg", "math", "frameset"]
  root : isRoot element = true →
    ∀ parent, outer = some parent → parent.isHtml "html" = true
  foreign : element.ns ≠ .html → outer.any holdsForeignContent = true →
    outer.map Element.ns = some element.ns ∧
      breaksOut (Text.lower element.localName) (tagAttributes element) = false
  entry : element.ns ≠ .html → outer.any holdsForeignContent = false →
    element.localName = entryName element.ns

/-- Two places for elements that bear the same name, if any. -/
def SamePlace (first second : Option Element) : Prop :=
  (first = none ∧ second = none) ∨
    ∃ left right, first = some left ∧ second = some right ∧
      SameName left right

theorem SamePlace.refl (outer : Option Element) : SamePlace outer outer := by
  cases outer with
  | none => exact Or.inl ⟨rfl, rfl⟩
  | some element => exact Or.inr ⟨element, element, rfl, rfl, rfl, rfl⟩

theorem Belongs.congr {outer other : Option Element} {element : Element}
    (belongs : Belongs outer element) (same : SamePlace other outer) :
    Belongs other element := by
  rcases same with ⟨rfl, rfl⟩ | ⟨later, earlier, rfl, rfl, sameName⟩
  · exact belongs
  · have foreign : holdsForeignContent later = holdsForeignContent earlier :=
      sameName.holdsForeignContent
    refine ⟨belongs.spelled, belongs.name, ?_, ?_, ?_⟩
    · intro root parent isParent
      cases isParent
      rw [sameName.isHtml]
      exact belongs.root root earlier rfl
    · intro notHtml inside
      rw [Option.any_some, foreign] at inside
      rw [Option.map_some, sameName.1]
      exact belongs.foreign notHtml inside
    · intro notHtml outside
      rw [Option.any_some, foreign] at outside
      exact belongs.entry notHtml outside

/-- Whether the content of an element is one text at most. -/
def isTextOnly (element : Element) : Bool :=
  (textSwitch? element).isSome

theorem SameName.isTextOnly {first second : Element}
    (same : SameName first second) :
    isTextOnly first = isTextOnly second := by
  rw [Html.isTextOnly, same.textSwitch?_eq]
  rfl

/-! ### Nodes -/

/-- The element that a node hangs under. -/
def parentElement? (document : Document) (id : NodeId) : Option Element :=
  (document.parent? id).bind document.element?

/-- The node holds at most one text, if its element is a text-only one. -/
def HoldsTextAt (document : Document) (id : NodeId) (element : Element) :
    Prop :=
  ∀ switch, textSwitch? element = some switch →
    document.children id = [] ∨
      ∃ child text, document.children id = [child] ∧
        document.data? child = some (.text text) ∧
          (switch.mode = .verbatim →
            ¬HoldsEndTag element.localName.toList text.toList)

/-- A payload that markup can put below `outer`. -/
def FitsBelow (outer : Option Element) : NodeData → Prop
  | .element element => Belongs outer element
  | .comment text => IsCommentText text
  | .doctype name => outer = none ∧ IsDoctypeName name
  | .text _ => True
  | .document | .processingInstruction _ _ => False

/-- A node that markup can have put into a document. -/
def Stands (document : Document) (id : NodeId) : Prop :=
  ∀ data, document.data? id = some data →
    (data = .document ∧ document.parent? id = none) ∨
      (FitsBelow (parentElement? document id) data ∧
        ∀ element, data = .element element →
          HoldsTextAt document id element)

theorem holdsTextAt_of_not_isTextOnly {document : Document} {id : NodeId}
    {element : Element} (other : isTextOnly element = false) :
    HoldsTextAt document id element := by
  intro switch isSwitch
  rw [isTextOnly, isSwitch] at other
  contradiction

theorem FitsBelow.congr {outer other : Option Element} {data : NodeData}
    (fits : FitsBelow outer data) (same : SamePlace other outer) :
    FitsBelow other data := by
  cases data with
  | element element => exact Belongs.congr fits same
  | comment text => exact fits
  | text text => trivial
  | doctype name =>
      rcases same with ⟨none, _⟩ | ⟨_, _, _, isSome, _⟩
      · exact ⟨none, fits.2⟩
      · rw [fits.1] at isSome
        contradiction
  | document => exact fits
  | processingInstruction target data => exact fits

/-! ### Larger documents -/

namespace Stands

variable {document after : Document} {id parent : NodeId} {data : NodeData}

theorem fits (stands : Stands document id) (present : document.data? id = some data)
    (other : data ≠ .document) : FitsBelow (parentElement? document id) data := by
  rcases stands data present with ⟨isDocument, _⟩ | ⟨fits, _⟩
  · exact absurd isDocument other
  · exact fits

theorem holdsTextAt {element : Element} (stands : Stands document id)
    (present : document.element? id = some element) :
    HoldsTextAt document id element := by
  have payload := Document.element?_eq_some_iff.mp present
  rcases stands _ payload with ⟨isDocument, _⟩ | ⟨_, holds⟩
  · contradiction
  · exact holds element rfl

/-- A node that keeps its payload and hangs where it did still stands if it
holds what it may. -/
private theorem follow (stands : Stands document id)
    (payload : after.data? id = document.data? id)
    (hangs : after.parent? id = document.parent? id)
    (place : SamePlace (parentElement? after id) (parentElement? document id))
    (holds : ∀ element, document.element? id = some element →
      HoldsTextAt after id element) : Stands after id := by
  intro data present
  rw [payload] at present
  rw [hangs]
  rcases stands data present with isDocument | ⟨fits, _⟩
  · exact Or.inl isDocument
  · refine Or.inr ⟨fits.congr place, ?_⟩
    rintro element rfl
    exact holds element (Document.element?_eq_some_iff.mpr present)

end Stands

private theorem holdsTextAt_congr {document after : Document} {id : NodeId}
    {element : Element} (holds : HoldsTextAt document id element)
    (content : after.children id = document.children id)
    (payloads : ∀ child ∈ document.children id, ∀ text,
      document.data? child = some (.text text) →
        after.data? child = some (.text text)) :
    HoldsTextAt after id element := by
  intro switch isSwitch
  rw [content]
  rcases holds switch isSwitch with
    empty | ⟨child, text, single, payload, raw⟩
  · exact Or.inl empty
  · refine Or.inr ⟨child, text, single, ?_, raw⟩
    exact payloads child (by rw [single]; exact List.mem_singleton_self _) text
      payload

section

variable {document : Document} {parent : NodeId} {data : NodeData}

private theorem samePlace_of_element? {after : Document} {id : NodeId}
    (hangs : after.parent? id = document.parent? id)
    (same : ∀ above, document.parent? id = some above →
      SamePlace (after.element? above) (document.element? above)) :
    SamePlace (parentElement? after id) (parentElement? document id) := by
  rw [parentElement?, parentElement?, hangs]
  cases place : document.parent? id with
  | none => exact .refl none
  | some above => exact same above place

/-- A new node that fits its parent leaves every node standing. -/
theorem stands_grown (wellFormed : document.WellFormed)
    (stands : ∀ id, Stands document id) (inside : parent < document.nodeCount)
    (fits : FitsBelow (document.element? parent) data)
    (holds : ∀ element, document.element? parent = some element →
      HoldsTextAt (document.grown parent data) parent element) (id : NodeId) :
    Stands (document.grown parent data) id := by
  by_cases fresh : id = document.nodeCount
  · subst fresh
    have place : parentElement? (document.grown parent data)
        document.nodeCount = document.element? parent := by
      rw [parentElement?, Document.parent?_grown inside, if_pos rfl]
      exact Document.element?_grown_of_lt inside inside
    have empty : (document.grown parent data).children document.nodeCount =
        [] := by
      rw [Document.children_grown inside, if_neg (Nat.ne_of_lt inside).symm]
      exact Document.WellFormed.children_of_absent (Nat.le_refl _)
    intro other present
    rw [Document.data?_grown inside, if_pos rfl] at present
    cases present
    rw [place]
    exact Or.inr ⟨fits, fun _ _ _ _ => Or.inl empty⟩
  · have hangs : (document.grown parent data).parent? id =
        document.parent? id := by
      rw [Document.parent?_grown inside, if_neg fresh]
    apply (stands id).follow
    · rw [Document.data?_grown inside, if_neg fresh]
    · exact hangs
    · apply samePlace_of_element? hangs
      intro above isAbove
      rw [Document.element?_grown_of_lt inside (wellFormed.parent_lt isAbove)]
      exact .refl _
    · intro element present
      by_cases atParent : id = parent
      · subst atParent
        exact holds element present
      · apply holdsTextAt_congr ((stands id).holdsTextAt present)
        · rw [Document.children_grown inside, if_neg atParent]
        · intro child member text payload
          rw [Document.data?_grown_of_lt inside (wellFormed.child_lt member)]
          exact payload

/-- A text that is no content of a text-only element can change. -/
theorem stands_setData_text (stands : ∀ id, Stands document id)
    {last : NodeId} {old : String}
    (isText : document.data? last = some (.text old)) (text : String)
    (free : ∀ id element, document.element? id = some element →
      last ∈ document.children id → isTextOnly element = false)
    (id : NodeId) : Stands (document.setData last (.text text)) id := by
  have place : parentElement? (document.setData last (.text text)) id =
      parentElement? document id := by
    rw [parentElement?, Document.parent?_setData,
      Document.element?_setData_text isText]
    rfl
  by_cases same : last = id
  · subst same
    intro data present
    rw [Document.data?_setData, if_pos rfl, isText] at present
    cases present
    exact Or.inr ⟨trivial, by simp⟩
  · apply (stands id).follow
    · exact Document.data?_setData_of_ne same
    · exact Document.parent?_setData id
    · rw [place]
      exact .refl _
    · intro element present
      by_cases holdsLast : last ∈ document.children id
      · exact holdsTextAt_of_not_isTextOnly (free id element present holdsLast)
      · apply holdsTextAt_congr ((stands id).holdsTextAt present)
        · exact Document.children_setData id
        · intro child member other payload
          rw [Document.data?_setData_of_ne]
          · exact payload
          · rintro rfl
            exact holdsLast member

/-- An element that keeps its name can get other attributes. -/
theorem stands_setData_element (stands : ∀ id, Stands document id)
    {node : NodeId} {element changed : Element}
    (present : document.element? node = some element)
    (same : SameName changed element)
    (belongs : Belongs (parentElement? document node) changed) (id : NodeId) :
    Stands (document.setData node (.element changed)) id := by
  have isElement := Document.element?_eq_some_iff.mp present
  have payload : (document.setData node (.element changed)).data? node =
      some (.element changed) := by
    rw [Document.data?_setData, if_pos rfl, isElement]
    rfl
  have places : ∀ other,
      SamePlace ((document.setData node (.element changed)).element? other)
        (document.element? other) := by
    intro other
    by_cases atNode : node = other
    · subst atNode
      rw [Document.element?_eq_some_iff.mpr payload, present]
      exact Or.inr ⟨changed, element, rfl, rfl, same⟩
    · rw [Document.element?_setData_of_ne atNode]
      exact .refl _
  have place : SamePlace
      (parentElement? (document.setData node (.element changed)) id)
      (parentElement? document id) :=
    samePlace_of_element? (Document.parent?_setData id) fun above _ =>
      places above
  have holds : ∀ other, HoldsTextAt document id other →
      HoldsTextAt (document.setData node (.element changed)) id other := by
    intro other holdsText
    apply holdsTextAt_congr holdsText
    · exact Document.children_setData id
    · intro child _ text isText
      rw [Document.data?_setData_of_ne]
      · exact isText
      · rintro rfl
        rw [isElement] at isText
        cases isText
  by_cases atNode : node = id
  · subst atNode
    intro data found
    rw [payload] at found
    cases found
    refine Or.inr ⟨belongs.congr place, ?_⟩
    rintro _ ⟨⟩
    intro switch isSwitch
    have holdsOld := holds element ((stands node).holdsTextAt present)
    rw [same.2]
    exact holdsOld switch (same.textSwitch?_eq.symm.trans isSwitch)
  · apply (stands id).follow
    · exact Document.data?_setData_of_ne atNode
    · exact Document.parent?_setData id
    · exact place
    · intro other found
      exact holds other ((stands id).holdsTextAt found)

end

end MarkupHarden.Html
