import MarkupHarden.Proofs.Html.Parsing

/-!
# Parsing step by step

Every token leaves a steady builder steady, or opens a text-only element.
-/

namespace MarkupHarden.Html

open Dom (Document Element Namespace NodeData NodeId)

namespace Builder

variable {limit size : Nat} {builder : Builder}

/-! ### Opening elements -/

/-- A builder that reads the content of a text-only element. -/
structure Absorbing (limit size : Nat) (switch : TextSwitch) (builder : Builder)
    (node : NodeId) (rest : List NodeId) (element : Element) : Prop where
  sound : Sound limit size builder
  openNodes : builder.openNodes = node :: rest
  present : builder.document.element? node = some element
  isSwitch : textSwitch? element = some switch
  calm : Calm builder.document rest
  closable : (builder.mode = .inHead ∧ isHeadElement element.localName = true) ∨
    (builder.mode = .inBody ∧ rest ≠ [])

/-- What a token leaves behind: a steady builder, or one that has just opened a
text-only element. -/
inductive Stepped (limit size : Nat) (result : Option TextSwitch × Builder) :
    Prop where
  | steady : Steady limit size result.2 → Stepped limit size result
  | absorbing {switch : TextSwitch} {node : NodeId} {rest : List NodeId}
      {element : Element} :
      result.1 = some switch →
      Absorbing limit size switch result.2 node rest element →
      result.2.document.children node = [] →
      Stepped limit size result

private theorem steady_tooDeep (steady : Steady limit size builder)
    (full : builder.openNodes.length ≥ builder.maxDepth) :
    Steady limit size { builder with tooDeep := true } := by
  have sound := steady.sound
  refine ⟨{ sound with shallow := ?_ }, steady.calm⟩
  intro _
  rw [← sound.maxDepth]
  exact Nat.le_trans full sound.short

/-- A new element is added and opened, unless the limit is reached. -/
private theorem Steady.attachElement (steady : Steady limit size builder)
    {parent : NodeId} (receives : Receives builder.document parent)
    {element : Element}
    (belongs : Belongs (builder.document.element? parent) element) :
    ∃ document, builder.attach parent (.element element) =
        (builder.document.nodeCount, { builder with document }) ∧
      Steady limit size { builder with document } ∧
      document.element? builder.document.nodeCount = some element ∧
        document.children builder.document.nodeCount = [] := by
  have fits : FitsBelow (builder.document.element? parent)
      (.element element) := belongs
  obtain ⟨attached, later⟩ := steady.attach receives fits
  refine ⟨_, attached, later, ?_, ?_⟩
  · exact steady.sound.element?_grown_self receives.parent element
  · exact steady.sound.children_grown_self receives.parent _

private theorem sound_openNode (sound : Sound limit size builder) {node : NodeId}
    {element : Element}
    (present : builder.document.element? node = some element) :
    Sound limit (size + 1)
      { builder with openNodes := node :: builder.openNodes } := by
  have larger := sound.mono (Nat.le_succ size)
  refine { larger with opened := ?_, short := ?_ }
  · intro other member
    rcases List.mem_cons.mp member with rfl | old
    · exact ⟨element, present⟩
    · exact sound.opened other old
  · have short := sound.short
    rw [List.length_cons]
    exact Nat.succ_le_succ short

private theorem steady_openNode (steady : Steady limit size builder) {node : NodeId}
    {element : Element}
    (present : builder.document.element? node = some element)
    (ordinary : isTextOnly element = false) :
    Steady limit (size + 1)
      { builder with openNodes := node :: builder.openNodes } := by
  refine ⟨sound_openNode steady.sound present, ?_⟩
  intro other member found isFound
  rcases List.mem_cons.mp member with rfl | old
  · change builder.document.element? other = some found at isFound
    rw [present] at isFound
    cases isFound
    exact ordinary
  · exact steady.calm other old found isFound

/-- The names of elements that are inserted by their tags as they are. -/
private theorem belongs_elementOf_html {name : String}
    {attributes : TagAttributes} (tag : IsTag name attributes)
    (other : name ∉ ["html", "head", "body", "svg", "math", "frameset"])
    (outer : Option Element) :
    Belongs outer (elementOf .html name attributes) := by
  have spelled : Spelled (elementOf .html name attributes) :=
    spelled_elementOf tag
  have ns : (elementOf .html name attributes).ns = .html := by
    rw [elementOf_eq tag]
  have named : (elementOf .html name attributes).localName = name := by
    rw [elementOf_eq tag]
    rfl
  simp only [List.mem_cons, List.not_mem_nil, or_false, not_or] at other
  refine ⟨spelled, ?_, ?_, ?_, ?_⟩
  · intro _
    rw [named]
    simp [other]
  · intro root
    simp [isRoot, named, other] at root
  · exact fun foreign => absurd ns foreign
  · exact fun foreign => absurd ns foreign

private theorem tagAttributes_elementOf {ns : Namespace} {name : String}
    {attributes : TagAttributes} (tag : IsTag name attributes) :
    Text.lower (elementOf ns name attributes).localName = name ∧
      tagAttributes (elementOf ns name attributes) = attributes := by
  rw [elementOf_eq tag]
  refine ⟨lower_elementSpelling tag.lowerName ns, ?_⟩
  rw [tagAttributes, List.map_map]
  calc attributes.map _
      = attributes.map id :=
        List.map_congr_left fun pair member => by
          simp [lower_attributeSpelling (tag.lowerKeys pair member)]
    _ = attributes := List.map_id _

private theorem belongs_elementOf_foreign {name : String}
    {attributes : TagAttributes} {ns : Namespace} (foreign : ns ≠ .html)
    (tag : IsTag name attributes) {outer : Option Element}
    (inside : outer.any holdsForeignContent = true →
      outer.map Element.ns = some ns ∧ breaksOut name attributes = false)
    (outside : outer.any holdsForeignContent = false → name = entryName ns) :
    Belongs outer (elementOf ns name attributes) := by
  obtain ⟨lower, same⟩ := @tagAttributes_elementOf ns name attributes tag
  have isNs : (elementOf ns name attributes).ns = ns := by
    rw [elementOf_eq tag]
  have spelled : Spelled (elementOf ns name attributes) :=
    spelled_elementOf tag
  refine ⟨spelled, ?_, ?_, ?_, ?_⟩
  · exact fun html => absurd (isNs.symm.trans html) foreign
  · exact fun root => absurd (isNs.symm.trans (html_of_isRoot root)) foreign
  · intro _ isInside
    rw [isNs, lower, same]
    exact inside isInside
  · intro _ isOutside
    rw [elementOf_eq tag, outside isOutside]
    cases ns with
    | html => contradiction
    | svg =>
        have spelling : elementSpelling .svg "svg" = "svg" := by decide
        exact spelling
    | mathml => rfl

/-- An element belongs where its tag inserts it. -/
private theorem Inserts.belongs {parent : NodeId} {ns : Namespace}
    {name : String} {attributes : TagAttributes}
    (inserts : Inserts builder parent ns name attributes) :
    Belongs (builder.document.element? parent)
      (elementOf ns name attributes) := by
  by_cases html : ns = .html
  · subst html
    exact belongs_elementOf_html inserts.tag (inserts.html rfl) _
  have current : builder.document.element? parent =
      builder.currentElement? := by
    rcases inserts.hosts with ⟨_, current⟩ | ⟨inHead, _⟩
    · rw [currentElement?, current]
      rfl
    · exact absurd (inserts.head inHead).1 html
  rw [current]
  exact belongs_elementOf_foreign html inserts.tag (inserts.foreign html)
    (inserts.entry html)

/-! ### Moves -/

private theorem Steady.narrow (steady : Steady limit size builder)
    {nodes : List NodeId} (within : nodes <:+ builder.openNodes)
    (mode : InsertionMode) :
    Steady limit size { builder with openNodes := nodes, mode } := by
  have sound := steady.sound
  refine ⟨{ sound with opened := ?_, short := ?_ }, ?_⟩
  · exact fun node member => sound.opened node (within.subset member)
  · exact Nat.le_trans within.length_le sound.short
  · exact fun node member => steady.calm node (within.subset member)

theorem Steady.shift (steady : Steady limit size builder) {after : Builder}
    (shift : Shift builder after) : Steady limit size after := by
  have sound := steady.sound
  cases shift with
  | supply supply => exact (sound.supply supply).2 steady
  | close within _ => exact steady.narrow within builder.mode
  | stray name => exact ⟨{ sound with }, steady.calm⟩
  | @doctype name named _ =>
      have noElement : builder.document.element? Document.root = none := by
        unfold Document.element?
        rw [sound.rooted]
      have fits : FitsBelow (builder.document.element? Document.root)
          (.doctype name) := ⟨noElement, named⟩
      obtain ⟨attached, later⟩ := steady.attach sound.receives_document fits
      rw [attached]
      exact later
  | comment place safe =>
      apply steady.attachComment ?_ safe
      rcases place with ⟨_, rfl⟩ | ⟨_, html⟩ | ⟨_, html⟩ | hosts
      · exact sound.receives_document
      · exact sound.receives_outer (Or.inl html)
      · exact sound.receives_outer (Or.inl html)
      · exact steady.receives_host hosts
  | text text place =>
      apply steady.attachText
      rcases place with ⟨_, current, _⟩ | ⟨hosts, _⟩
      · exact steady.receives_open (List.mem_of_head? current)
      · exact steady.receives_host hosts
  | space _ html _ =>
      exact steady.attachText (sound.receives_outer (Or.inl html)) _
  | leaf inserts _ =>
      obtain ⟨document, attached, later, _⟩ := steady.attachElement
        (steady.receives_host inserts.hosts) inserts.belongs
      rw [attached]
      exact later
  | flatten inserts _ full =>
      obtain ⟨document, attached, later, _⟩ := steady.attachElement
        (steady.receives_host inserts.hosts) inserts.belongs
      rw [attached]
      exact steady_tooDeep later full
  | closeInHead _ _ _ =>
      exact steady.narrow (List.tail_suffix _) builder.mode
  | leaveHead _ within => exact steady.narrow within .afterHead
  | reenterHead _ head => exact sound.reenterHead head

theorem Steady.shifts (steady : Steady limit size builder) {after : Builder}
    (shifts : Shifts builder after) : Steady limit size after := by
  induction shifts with
  | refl => exact steady
  | tail _ shift earlier => exact earlier.shift shift

theorem Steady.opening (steady : Steady limit size builder)
    (isOpen : builder.mode = .inBody → builder.openNodes ≠ [])
    {switch : Option TextSwitch} {after : Builder}
    (opening : Opening builder switch after) :
    Stepped limit (size + 1) (switch, after) := by
  cases opening with
  | @opened parent ns name attributes inserts _ short =>
      obtain ⟨document, attached, later, isNew, empty⟩ := steady.attachElement
        (steady.receives_host inserts.hosts) inserts.belongs
      rw [attached]
      cases textOnly : isTextOnly (elementOf ns name attributes) with
      | false => exact .steady (steady_openNode later isNew textOnly)
      | true =>
          obtain ⟨switch, isSwitch⟩ := Option.isSome_iff_exists.mp textOnly
          have html := (textSwitch?_eq_some_iff.mp isSwitch).1
          have named : (elementOf ns name attributes).localName = name := by
            rw [elementOf_eq inserts.tag] at html ⊢
            have isHtml : ns = .html := html
            rw [isHtml]
            rfl
          refine .absorbing isSwitch ⟨sound_openNode later.sound isNew, rfl,
            isNew, isSwitch, later.calm, ?_⟩ empty
          rw [named]
          rcases inserts.hosts with ⟨inBody, _⟩ | ⟨inHead, _⟩
          · exact Or.inr ⟨inBody, isOpen inBody⟩
          · exact Or.inl ⟨inHead, (inserts.head inHead).2⟩

/-- What a token does to a steady builder. -/
theorem Steady.step (steady : Steady limit size builder)
    (situated : Situated builder) {token : Token} (isToken : IsToken token) :
    Stepped limit (size + 1) (builder.step token) := by
  have effect := effect_step situated isToken
  generalize builder.step token = result at effect ⊢
  obtain ⟨switch, after⟩ := result
  cases effect with
  | shifted shifts =>
      exact .steady ((steady.shifts shifts).mono (Nat.le_succ size))
  | opened shifts opening =>
      have middle := lasting_situated.shifts shifts situated
      exact (steady.shifts shifts).opening middle.opened opening
  | closed shifts opening closing =>
      have middle := lasting_situated.shifts shifts situated
      have opened := (steady.shifts shifts).opening middle.opened opening
      cases opened with
      | steady opened => exact .steady (opened.shifts closing)
      | absorbing isSwitch _ _ => contradiction

end Builder

end MarkupHarden.Html
