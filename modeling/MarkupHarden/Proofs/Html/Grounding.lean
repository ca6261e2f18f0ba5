import MarkupHarden.Proofs.Html.Moves

/-!
# Builders and the nodes they name

`Grounded` says of a builder that its document is well-formed and that the
nodes it keeps, the outer elements and the open ones, are elements of the
document.  Below such nodes nothing is refused, so that adding a node grows the
document.
-/

namespace MarkupHarden.Html

open Dom (Document Element NodeData NodeId)

/-- The document node or an element. -/
def IsParent (document : Document) (node : NodeId) : Prop :=
  node = Document.root ∨ ∃ element, document.element? node = some element

namespace Builder

/-- A builder all of whose nodes are elements of a well-formed document. -/
structure Grounded (builder : Builder) : Prop where
  wellFormed : builder.document.WellFormed
  rooted : builder.document.data? Document.root = some .document
  html : ∀ node, builder.html = some node →
    builder.document.isHtmlElement node "html" = true
  head : ∀ node, builder.head = some node →
    builder.document.isHtmlElement node "head" = true
  body : ∀ node, builder.body = some node →
    builder.document.isHtmlElement node "body" = true
  opened : ∀ node ∈ builder.openNodes, ∃ element,
    builder.document.element? node = some element

variable {builder : Builder}

theorem isRoot_of_isHtml {element : Element} {name : String}
    (member : name ∈ ["html", "head", "body"])
    (named : element.isHtml name = true) : isRoot element = true := by
  rw [Element.isHtml, Bool.and_eq_true, decide_eq_true_eq,
    decide_eq_true_eq] at named
  rw [isRoot, Bool.and_eq_true, decide_eq_true_eq, List.contains_iff_mem,
    named.2]
  exact ⟨named.1, member⟩

namespace Grounded

theorem outer (grounded : Grounded builder) {node : NodeId}
    (isOuter : IsOuter builder node) :
    ∃ element, builder.document.element? node = some element ∧
      isRoot element = true := by
  have named : ∃ name ∈ ["html", "head", "body"],
      builder.document.isHtmlElement node name = true := by
    rcases isOuter with html | head | body
    · exact ⟨"html", by simp, grounded.html node html⟩
    · exact ⟨"head", by simp, grounded.head node head⟩
    · exact ⟨"body", by simp, grounded.body node body⟩
  obtain ⟨name, member, named⟩ := named
  obtain ⟨element, present, named⟩ := (Option.any_eq_true _ _).mp named
  exact ⟨element, present, isRoot_of_isHtml member named⟩

/-- A later document in which the elements keep their names. -/
theorem follow (grounded : Grounded builder) {after : Document}
    (follows : Follows builder.document after) (wellFormed : after.WellFormed)
    (rooted : after.data? Document.root = some .document) :
    Grounded { builder with document := after } := by
  have still : ∀ node name, builder.document.isHtmlElement node name = true →
      after.isHtmlElement node name = true := by
    intro node name isElement
    obtain ⟨element, present, named⟩ := (Option.any_eq_true _ _).mp isElement
    obtain ⟨later, found, same⟩ := follows node element present
    exact (Option.any_eq_true _ _).mpr
      ⟨later, found, (same.isHtml name).trans named⟩
  refine ⟨wellFormed, rooted, ?_, ?_, ?_, ?_⟩
  · exact fun node html => still node _ (grounded.html node html)
  · exact fun node head => still node _ (grounded.head node head)
  · exact fun node body => still node _ (grounded.body node body)
  · intro node member
    obtain ⟨element, present⟩ := grounded.opened node member
    obtain ⟨later, found, _⟩ := follows node element present
    exact ⟨later, found⟩

/-! ### Adding nodes -/

variable {parent : NodeId}

theorem isParent_outer (grounded : Grounded builder)
    (isOuter : IsOuter builder parent) : IsParent builder.document parent := by
  obtain ⟨element, present, _⟩ := grounded.outer isOuter
  exact Or.inr ⟨element, present⟩

theorem isParent_open (grounded : Grounded builder)
    (member : parent ∈ builder.openNodes) :
    IsParent builder.document parent :=
  Or.inr (grounded.opened parent member)

theorem canHold (grounded : Grounded builder)
    (isParent : IsParent builder.document parent) :
    (builder.document.data? parent).any NodeData.canHoldChildren = true := by
  rcases isParent with rfl | ⟨element, present⟩
  · rw [grounded.rooted]
    rfl
  · rw [Document.element?_eq_some_iff.mp present]
    rfl

theorem lt_of_isParent (grounded : Grounded builder)
    (isParent : IsParent builder.document parent) :
    parent < builder.document.nodeCount := by
  obtain ⟨_, present, _⟩ :=
    (Option.any_eq_true _ _).mp (grounded.canHold isParent)
  exact Document.lt_of_data?_eq_some present

theorem attach_eq (grounded : Grounded builder)
    (isParent : IsParent builder.document parent) {data : NodeData}
    (notDocument : data.kind ≠ .document) :
    builder.attach parent data =
      (builder.document.nodeCount,
        { builder with document := builder.document.grown parent data }) :=
  Builder.attach_eq grounded.wellFormed (grounded.canHold isParent) notDocument

theorem grown (grounded : Grounded builder)
    (isParent : IsParent builder.document parent) (data : NodeData) :
    Grounded { builder with document := builder.document.grown parent data } := by
  have inside := grounded.lt_of_isParent isParent
  apply grounded.follow (follows_grown inside data)
  · exact grounded.wellFormed.grown (grounded.canHold isParent) data
  · rw [Document.data?_grown_of_lt inside
      (Document.lt_of_data?_eq_some grounded.rooted)]
    exact grounded.rooted

theorem element?_grown_self (grounded : Grounded builder)
    (isParent : IsParent builder.document parent) (element : Element) :
    (builder.document.grown parent (.element element)).element?
      builder.document.nodeCount = some element := by
  have inside := grounded.lt_of_isParent isParent
  rw [Document.element?_eq_some_iff, Document.data?_grown inside, if_pos rfl]

private theorem isHtmlElement_grown_self (grounded : Grounded builder)
    (isParent : IsParent builder.document parent) {element : Element}
    {name : String} (named : element.isHtml name = true) :
    (builder.document.grown parent (.element element)).isHtmlElement
      builder.document.nodeCount name = true := by
  rw [Document.isHtmlElement, grounded.element?_grown_self isParent element]
  exact named

theorem children_grown_self (grounded : Grounded builder)
    (isParent : IsParent builder.document parent) (data : NodeData) :
    (builder.document.grown parent data).children
      builder.document.nodeCount = [] := by
  have inside := grounded.lt_of_isParent isParent
  rw [Document.children_grown inside, if_neg (Nat.ne_of_lt inside).symm]
  exact Document.WellFormed.children_of_absent (Nat.le_refl _)

/-! ### Supplying the outer elements -/

theorem enterHtml_eq (grounded : Grounded builder) :
    builder.enterHtml =
      { builder with
        document :=
          builder.document.grown Document.root (.element (.html "html"))
        html := some builder.document.nodeCount
        mode := .beforeHead } := by
  have attached := grounded.attach_eq (Or.inl rfl)
    (by decide : (NodeData.element (.html "html")).kind ≠ .document)
  unfold Builder.enterHtml
  simp only [attached]

theorem enterHead_eq (grounded : Grounded builder)
    (isHtml : builder.html = some parent) :
    builder.enterHead parent =
      { builder with
        document := builder.document.grown parent (.element (.html "head"))
        head := some builder.document.nodeCount
        openNodes := [builder.document.nodeCount]
        mode := .inHead } := by
  have attached := grounded.attach_eq (grounded.isParent_outer (Or.inl isHtml))
    (by decide : (NodeData.element (.html "head")).kind ≠ .document)
  unfold Builder.enterHead
  simp only [attached]

theorem enterBody_eq (grounded : Grounded builder)
    (isHtml : builder.html = some parent) :
    builder.enterBody parent =
      { builder with
        document := builder.document.grown parent (.element (.html "body"))
        body := some builder.document.nodeCount
        openNodes := [builder.document.nodeCount]
        mode := .inBody } := by
  have attached := grounded.attach_eq (grounded.isParent_outer (Or.inl isHtml))
    (by decide : (NodeData.element (.html "body")).kind ≠ .document)
  unfold Builder.enterBody
  simp only [attached]

theorem enterHtml (grounded : Grounded builder) :
    Grounded builder.enterHtml := by
  have isParent : IsParent builder.document Document.root := Or.inl rfl
  rw [grounded.enterHtml_eq]
  refine { grounded.grown isParent (.element (.html "html")) with html := ?_ }
  rintro node ⟨⟩
  exact grounded.isHtmlElement_grown_self isParent (by decide)

theorem enterHead (grounded : Grounded builder)
    (isHtml : builder.html = some parent) :
    Grounded (builder.enterHead parent) := by
  have isParent := grounded.isParent_outer (Or.inl isHtml)
  have isNew := grounded.element?_grown_self isParent (.html "head")
  rw [grounded.enterHead_eq isHtml]
  refine { grounded.grown isParent (.element (.html "head")) with
    head := ?_, opened := ?_ }
  · rintro node ⟨⟩
    exact grounded.isHtmlElement_grown_self isParent (by decide)
  · intro node member
    rw [List.mem_singleton.mp member]
    exact ⟨_, isNew⟩

theorem enterBody (grounded : Grounded builder)
    (isHtml : builder.html = some parent) :
    Grounded (builder.enterBody parent) := by
  have isParent := grounded.isParent_outer (Or.inl isHtml)
  have isNew := grounded.element?_grown_self isParent (.html "body")
  rw [grounded.enterBody_eq isHtml]
  refine { grounded.grown isParent (.element (.html "body")) with
    body := ?_, opened := ?_ }
  · rintro node ⟨⟩
    exact grounded.isHtmlElement_grown_self isParent (by decide)
  · intro node member
    rw [List.mem_singleton.mp member]
    exact ⟨_, isNew⟩

/-! ### Changing nodes -/

theorem setData_text (grounded : Grounded builder) {last : NodeId}
    {old : String} (isText : builder.document.data? last = some (.text old))
    (text : String) :
    Follows builder.document (builder.document.setData last (.text text)) ∧
      Grounded
        { builder with
          document := builder.document.setData last (.text text) } := by
  have follows : Follows builder.document
      (builder.document.setData last (.text text)) := by
    intro node element present
    refine ⟨element, ?_, rfl, rfl⟩
    rw [Document.element?_setData_text isText]
    exact present
  refine ⟨follows, grounded.follow follows ?_ ?_⟩
  · exact grounded.wellFormed.setData_text isText text
  · rw [Document.data?_setData_of_ne]
    · exact grounded.rooted
    · rintro rfl
      cases isText.symm.trans grounded.rooted

theorem setData_element (grounded : Grounded builder) {node : NodeId}
    {element changed : Element}
    (present : builder.document.element? node = some element)
    (same : SameName changed element) :
    Grounded
      { builder with
        document := builder.document.setData node (.element changed) } := by
  apply grounded.follow (follows_setData_element present same)
  · exact grounded.wellFormed.setData_element _ present
  · rw [Document.data?_setData_of_ne]
    · exact grounded.rooted
    · rintro rfl
      rw [Document.element?_eq_some_iff, grounded.rooted] at present
      cases present

/-- Text is dropped when it is empty, and otherwise goes into a new node or into
the text at the end of the children. -/
theorem attachText_cases (grounded : Grounded builder)
    (isParent : IsParent builder.document parent) (text : String) :
    builder.attachText (some parent) text = builder ∨
      (text ≠ "" ∧ builder.document.lastText? parent = none ∧
        builder.attachText (some parent) text =
          { builder with
            document := builder.document.grown parent (.text text) }) ∨
      ∃ last old, text ≠ "" ∧
        builder.document.lastText? parent = some (last, old) ∧
        builder.attachText (some parent) text =
          { builder with
            document :=
              builder.document.setData last (.text (old ++ text)) } := by
  by_cases nonempty : text = ""
  · subst nonempty
    exact Or.inl rfl
  cases found : builder.document.lastText? parent with
  | none =>
      refine Or.inr (Or.inl ⟨nonempty, rfl, ?_⟩)
      exact attachText_eq_grown grounded.wellFormed
        (grounded.canHold isParent) nonempty found
  | some pair =>
      obtain ⟨last, old⟩ := pair
      refine Or.inr (Or.inr ⟨last, old, nonempty, rfl, ?_⟩)
      exact attachText_eq_setData nonempty found

/-- Attributes are merged into an element that is there. -/
theorem mergeAttributes_eq (grounded : Grounded builder) {node : NodeId}
    (isOuter : IsOuter builder node) (attributes : TagAttributes) :
    ∃ element, builder.document.element? node = some element ∧
      isRoot element = true ∧
      builder.mergeAttributes (some node) attributes =
        { builder with
          document :=
            builder.document.setData node
              (.element (element.addAttributes attributes)) } := by
  obtain ⟨element, present, root⟩ := grounded.outer isOuter
  refine ⟨element, present, root, ?_⟩
  unfold mergeAttributes
  simp only [present]

end Grounded

/-! ### Where builders start -/

theorem grounded_forDocument (limit : Nat) : Grounded (forDocument limit) where
  wellFormed := Document.wellFormed_empty
  rooted := rfl
  html := nofun
  head := nofun
  body := nofun
  opened := nofun

theorem grounded_forFragment {document : Document}
    (wellFormed : document.WellFormed)
    (rooted : document.data? Document.root = some .document)
    {context : NodeId} {element : Element}
    (present : document.element? context = some element) (limit : Nat) :
    Grounded (forFragment document context limit) where
  wellFormed := wellFormed
  rooted := rooted
  html := nofun
  head := nofun
  body := nofun
  opened := by
    intro node member
    rw [List.mem_singleton.mp member]
    exact ⟨element, present⟩

end Builder

end MarkupHarden.Html
