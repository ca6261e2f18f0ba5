import MarkupHarden.Proofs.Html.Effects
import MarkupHarden.Proofs.Html.Grounding
import MarkupHarden.Proofs.Html.Standing

/-!
# What markup is parsed into

Whatever the markup, a builder refuses no node, and every node of its document
stands.  `Sound` is the invariant.  While the content of a text-only element is
read, that element is the innermost open one; at all other times no text-only
element is open, and the builder is `Steady`.
-/

namespace MarkupHarden.Html

open Dom (Document Element NodeData NodeId)

namespace Builder

/-- No text-only element is among the nodes. -/
def Calm (document : Document) (nodes : List NodeId) : Prop :=
  ∀ node ∈ nodes, ∀ element, document.element? node = some element →
    isTextOnly element = false

/-- A builder with a nesting limit whose document holds what markup can be
parsed into, with at most `size` open elements. -/
structure Sound (limit size : Nat) (builder : Builder) : Prop extends
    Grounded builder where
  stands : ∀ id, Stands builder.document id
  accepted : builder.refusal = none
  maxDepth : builder.maxDepth = limit
  positive : 1 ≤ size
  short : builder.openNodes.length ≤ size
  shallow : builder.tooDeep = true → limit ≤ size

/-- A sound builder that expects ordinary content. -/
structure Steady (limit size : Nat) (builder : Builder) : Prop where
  sound : Sound limit size builder
  calm : Calm builder.document builder.openNodes

variable {limit size : Nat} {builder : Builder}

theorem Sound.mono (sound : Sound limit size builder) {larger : Nat}
    (most : size ≤ larger) : Sound limit larger builder :=
  { sound with
    positive := Nat.le_trans sound.positive most
    short := Nat.le_trans sound.short most
    shallow := fun tooDeep => Nat.le_trans (sound.shallow tooDeep) most }

theorem Steady.mono (steady : Steady limit size builder) {larger : Nat}
    (most : size ≤ larger) : Steady limit larger builder :=
  ⟨steady.sound.mono most, steady.calm⟩

theorem Calm.follow {document after : Document} {nodes : List NodeId}
    (calm : Calm document nodes)
    (opened : ∀ node ∈ nodes, ∃ element, document.element? node = some element)
    (follows : Follows document after) : Calm after nodes := by
  intro node member element present
  obtain ⟨old, found⟩ := opened node member
  obtain ⟨later, foundLater, same⟩ := follows node old found
  rw [present] at foundLater
  cases foundLater
  rw [same.isTextOnly]
  exact calm node member old found

/-- The same builder with a later document. -/
theorem Sound.follow (sound : Sound limit size builder) {after : Document}
    (grounded : Grounded { builder with document := after })
    (stands : ∀ id, Stands after id) :
    Sound limit size { builder with document := after } :=
  { grounded with
    stands := stands
    accepted := sound.accepted
    maxDepth := sound.maxDepth
    positive := sound.positive
    short := sound.short
    shallow := sound.shallow }

/-! ### Adding nodes -/

/-- A node that can get any children: the document node or an element that is
not text-only. -/
structure Receives (document : Document) (node : NodeId) : Prop where
  parent : IsParent document node
  ordinary : ∀ element, document.element? node = some element →
    isTextOnly element = false

theorem Sound.attach (sound : Sound limit size builder) {parent : NodeId}
    (isParent : IsParent builder.document parent) {data : NodeData}
    (fits : FitsBelow (builder.document.element? parent) data)
    (holds : ∀ element, builder.document.element? parent = some element →
      HoldsTextAt (builder.document.grown parent data) parent element) :
    builder.attach parent data =
        (builder.document.nodeCount,
          { builder with document := builder.document.grown parent data }) ∧
      Sound limit size
        { builder with document := builder.document.grown parent data } := by
  have inside := sound.lt_of_isParent isParent
  have notDocument : data.kind ≠ .document := by
    cases data with
    | document => exact False.elim fits
    | _ => simp [NodeData.kind]
  refine ⟨sound.attach_eq isParent notDocument, ?_⟩
  apply sound.follow (sound.grown isParent data)
  exact stands_grown sound.wellFormed sound.stands inside fits holds

theorem Steady.attach (steady : Steady limit size builder) {parent : NodeId}
    (receives : Receives builder.document parent) {data : NodeData}
    (fits : FitsBelow (builder.document.element? parent) data) :
    builder.attach parent data =
        (builder.document.nodeCount,
          { builder with document := builder.document.grown parent data }) ∧
      Steady limit size
        { builder with document := builder.document.grown parent data } := by
  have inside := steady.sound.lt_of_isParent receives.parent
  obtain ⟨attached, sound⟩ := steady.sound.attach receives.parent fits
    fun element present =>
      holdsTextAt_of_not_isTextOnly (receives.ordinary element present)
  exact ⟨attached, sound,
    steady.calm.follow steady.sound.opened (follows_grown inside data)⟩

theorem isTextOnly_of_isRoot {element : Element}
    (root : isRoot element = true) : isTextOnly element = false := by
  rw [isTextOnly, (facts_of_isRoot root).2]
  rfl

theorem Sound.receives_document (sound : Sound limit size builder) :
    Receives builder.document Document.root where
  parent := Or.inl rfl
  ordinary := by
    intro element present
    rw [Document.element?_eq_some_iff, sound.rooted] at present
    cases present

theorem Sound.receives_outer (sound : Sound limit size builder) {node : NodeId}
    (isOuter : IsOuter builder node) : Receives builder.document node := by
  obtain ⟨element, present, root⟩ := sound.outer isOuter
  refine ⟨Or.inr ⟨element, present⟩, ?_⟩
  intro other found
  rw [present] at found
  cases found
  exact isTextOnly_of_isRoot root

theorem Steady.receives_open (steady : Steady limit size builder) {node : NodeId}
    (member : node ∈ builder.openNodes) : Receives builder.document node :=
  ⟨steady.sound.isParent_open member, steady.calm node member⟩

theorem Steady.receives_host (steady : Steady limit size builder)
    {parent : NodeId} (hosts : Hosts builder parent) :
    Receives builder.document parent := by
  rcases hosts with ⟨_, current⟩ | ⟨_, head⟩
  · exact steady.receives_open (List.mem_of_head? current)
  · exact steady.sound.receives_outer (Or.inr (Or.inl head))

theorem Steady.attachComment (steady : Steady limit size builder)
    {parent : NodeId} (receives : Receives builder.document parent)
    {text : String} (safe : IsCommentText text) :
    Steady limit size (builder.attach parent (.comment text)).2 := by
  have fits : FitsBelow (builder.document.element? parent) (.comment text) :=
    safe
  obtain ⟨attached, later⟩ := steady.attach receives fits
  rw [attached]
  exact later

theorem Steady.attachText (steady : Steady limit size builder)
    {parent : NodeId} (receives : Receives builder.document parent)
    (text : String) :
    Steady limit size (builder.attachText (some parent) text) := by
  have sound := steady.sound
  rcases sound.attachText_cases receives.parent text with
    same | ⟨_, _, same⟩ | ⟨last, old, _, found, same⟩
  · rw [same]
    exact steady
  · have fits : FitsBelow (builder.document.element? parent) (.text text) :=
      trivial
    rw [same]
    exact (steady.attach receives fits).2
  · obtain ⟨isLast, isText⟩ := Document.lastText?_eq_some_iff.mp found
    have member : last ∈ builder.document.children parent :=
      List.mem_of_getLast? isLast
    have hangs := (sound.wellFormed.mem_children parent last).mp member
    have free : ∀ id element, builder.document.element? id = some element →
        last ∈ builder.document.children id → isTextOnly element = false := by
      intro id element present memberHere
      have hangsHere := (sound.wellFormed.mem_children id last).mp memberHere
      rw [hangs] at hangsHere
      cases hangsHere
      exact receives.ordinary element present
    obtain ⟨follows, grounded⟩ := sound.setData_text isText (old ++ text)
    rw [same]
    exact ⟨sound.follow grounded
      (stands_setData_text sound.stands isText _ free),
      steady.calm.follow sound.opened follows⟩

/-! ### Supplying the outer elements -/

theorem belongs_outer {name : String}
    (member : name ∈ ["html", "head", "body"]) {outer : Option Element}
    (below : ∀ parent, outer = some parent → parent.isHtml "html" = true) :
    Belongs outer (.html name) := by
  have spelled : Spelled (.html name) ∧
      (Element.html name).localName ∉ ["svg", "math", "frameset"] := by
    simp only [List.mem_cons, List.not_mem_nil, or_false] at member
    have ofTag : ∀ {name : String}, IsTag name [] → Spelled (.html name) := by
      intro name tag
      have spelled : Spelled (elementOf .html name []) := spelled_elementOf tag
      rwa [elementOf_html] at spelled
    have empty := areTagAttributes_nil
    rcases member with rfl | rfl | rfl
    · exact ⟨ofTag ⟨empty, by decide, by decide⟩, by decide⟩
    · exact ⟨ofTag ⟨empty, by decide, by decide⟩, by decide⟩
    · exact ⟨ofTag ⟨empty, by decide, by decide⟩, by decide⟩
  exact ⟨spelled.1, fun _ => spelled.2, fun _ => below,
    fun foreign => absurd rfl foreign, fun foreign => absurd rfl foreign⟩

/-- A new outer element stands where it is added. -/
private theorem Sound.stands_outer (sound : Sound limit size builder)
    {name : String} (member : name ∈ ["html", "head", "body"])
    {parent : NodeId} (receives : Receives builder.document parent)
    (below : ∀ element, builder.document.element? parent = some element →
      element.isHtml "html" = true) (id : NodeId) :
    Stands (builder.document.grown parent (.element (.html name))) id := by
  have fits : FitsBelow (builder.document.element? parent)
      (.element (.html name)) := belongs_outer member below
  exact stands_grown sound.wellFormed sound.stands
    (sound.lt_of_isParent receives.parent) fits
    (fun element present =>
      holdsTextAt_of_not_isTextOnly (receives.ordinary element present)) id

private theorem Sound.isHtml_parent (sound : Sound limit size builder)
    {html : NodeId} (isHtml : builder.html = some html) :
    ∀ element, builder.document.element? html = some element →
      element.isHtml "html" = true := by
  intro element present
  have named := sound.html html isHtml
  rwa [Document.isHtmlElement, present] at named

private theorem Sound.enterHtml (sound : Sound limit size builder) :
    Sound limit size builder.enterHtml := by
  have grounded := sound.toGrounded.enterHtml
  have stands := sound.stands_outer (by simp : "html" ∈ _)
    sound.receives_document (by
      intro element present
      rw [Document.element?_eq_some_iff, sound.rooted] at present
      cases present)
  rw [sound.enterHtml_eq] at grounded ⊢
  exact { grounded with
    stands := stands
    accepted := sound.accepted
    maxDepth := sound.maxDepth
    positive := sound.positive
    short := sound.short
    shallow := sound.shallow }

private theorem Sound.enterHead (sound : Sound limit size builder)
    {html : NodeId} (isHtml : builder.html = some html) :
    Sound limit size (builder.enterHead html) := by
  have grounded := sound.toGrounded.enterHead isHtml
  have stands := sound.stands_outer (by simp : "head" ∈ _)
    (sound.receives_outer (Or.inl isHtml)) (sound.isHtml_parent isHtml)
  rw [sound.enterHead_eq isHtml] at grounded ⊢
  exact { grounded with
    stands := stands
    accepted := sound.accepted
    maxDepth := sound.maxDepth
    positive := sound.positive
    short := sound.positive
    shallow := sound.shallow }

private theorem Sound.enterBody (sound : Sound limit size builder)
    {html : NodeId} (isHtml : builder.html = some html) :
    Sound limit size (builder.enterBody html) := by
  have grounded := sound.toGrounded.enterBody isHtml
  have stands := sound.stands_outer (by simp : "body" ∈ _)
    (sound.receives_outer (Or.inl isHtml)) (sound.isHtml_parent isHtml)
  rw [sound.enterBody_eq isHtml] at grounded ⊢
  exact { grounded with
    stands := stands
    accepted := sound.accepted
    maxDepth := sound.maxDepth
    positive := sound.positive
    short := sound.positive
    shallow := sound.shallow }

/-- One of the outer elements is the only open one. -/
private theorem Sound.calm_outer (sound : Sound limit size builder)
    {node : NodeId} (isOuter : IsOuter builder node) :
    Calm builder.document [node] := by
  intro id member
  rw [List.mem_singleton.mp member]
  exact (sound.receives_outer isOuter).ordinary

theorem Sound.reenterHead (sound : Sound limit size builder) {head : NodeId}
    (isHead : builder.head = some head) :
    Steady limit size
      { builder with openNodes := [head], mode := .inHead } := by
  have isOuter : IsOuter builder head := Or.inr (Or.inl isHead)
  obtain ⟨element, present, _⟩ := sound.outer isOuter
  refine ⟨{ sound with opened := ?_, short := sound.positive },
    sound.calm_outer isOuter⟩
  intro id member
  rw [List.mem_singleton.mp member]
  exact ⟨element, present⟩

private theorem Sound.mergeAttributes (sound : Sound limit size builder)
    {node : NodeId} (isOuter : IsOuter builder node)
    {attributes : TagAttributes} (are : AreTagAttributes attributes) :
    Sound limit size (builder.mergeAttributes (some node) attributes) ∧
      (Steady limit size builder →
        Steady limit size
          (builder.mergeAttributes (some node) attributes)) := by
  obtain ⟨element, present, root, merged⟩ :=
    sound.mergeAttributes_eq isOuter attributes
  have same := sameName_addAttributes element attributes
  have html := html_of_isRoot root
  have changedHtml := same.1.trans html
  have isElement := Document.element?_eq_some_iff.mp present
  have belongs : Belongs (parentElement? builder.document node) element :=
    (sound.stands node).fits isElement (by simp)
  have belongsChanged : Belongs (parentElement? builder.document node)
      (element.addAttributes attributes) := by
    refine ⟨belongs.spelled.addAttributes html are, ?_, ?_, ?_, ?_⟩
    · intro _
      rw [same.2]
      exact belongs.name html
    · rw [same.isRoot]
      exact belongs.root
    · exact fun foreign => absurd changedHtml foreign
    · exact fun foreign => absurd changedHtml foreign
  have later := sound.follow (sound.setData_element present same)
    (stands_setData_element sound.stands present same belongsChanged)
  rw [merged]
  exact ⟨later, fun steady => ⟨later, steady.calm.follow sound.opened
    (follows_setData_element present same)⟩⟩

/-- Supplying an outer element is sound even inside a text-only element, and
opens none. -/
theorem Sound.supply (sound : Sound limit size builder) {after : Builder}
    (supply : Supply builder after) :
    Sound limit size after ∧
      (Steady limit size builder → Steady limit size after) := by
  cases supply with
  | merge _ isOuter are => exact sound.mergeAttributes isOuter are
  | enterHtml _ =>
      have later := sound.enterHtml
      have isParent : IsParent builder.document Document.root := Or.inl rfl
      refine ⟨later, fun steady => ⟨later, ?_⟩⟩
      rw [sound.enterHtml_eq]
      exact steady.calm.follow sound.opened
        (follows_grown (sound.lt_of_isParent isParent) _)
  | enterHead _ isHtml =>
      have later := sound.enterHead isHtml
      refine ⟨later, fun _ => ⟨later, ?_⟩⟩
      rw [sound.enterHead_eq isHtml] at later ⊢
      exact later.calm_outer (Or.inr (Or.inl rfl))
  | enterBody _ isHtml =>
      have later := sound.enterBody isHtml
      refine ⟨later, fun _ => ⟨later, ?_⟩⟩
      rw [sound.enterBody_eq isHtml] at later ⊢
      exact later.calm_outer (Or.inr (Or.inr rfl))

theorem Sound.supplies (sound : Sound limit size builder) {after : Builder}
    (supplies : Supplies builder after) : Sound limit size after := by
  induction supplies with
  | refl => exact sound
  | tail _ supply earlier => exact (earlier.supply supply).1

end Builder

end MarkupHarden.Html
