import MarkupHarden.Proofs.Html.Placement
import MarkupHarden.Proofs.Html.Tokens

/-!
# What a token does to a builder

Whatever the token, a builder goes on in small moves.  `Shift` lists the moves
that open nothing, and `Opening` is the one that opens a new element.  A token
has the `Effect` of some shifts and at most one opening, so that a property of
builders that both kinds of move keep is kept by every token, and by whole
markups.
-/

namespace MarkupHarden.Html

open Dom (Document Element Namespace NodeData NodeId)

namespace Builder

variable {builder before after : Builder}

/-! ### What the moves change -/

/-- Adding a node changes the document and may be refused. -/
theorem attach_snd (builder : Builder) (parent : NodeId) (data : NodeData) :
    ∃ refusal, (builder.attach parent data).2 =
      { builder with
        document := (builder.document.appendNew parent data).2, refusal } := by
  unfold attach
  cases outcome : (builder.document.appendNew parent data).1 with
  | ok id =>
      refine ⟨builder.refusal, ?_⟩
      simp only [outcome]
  | error refusal =>
      refine ⟨builder.refusal.or refusal, ?_⟩
      simp only [outcome]

theorem attachText_eq (builder : Builder) (parent : NodeId) (text : String) :
    ∃ refusal, builder.attachText (some parent) text =
      { builder with
        document := (builder.document.appendText parent text).2, refusal } := by
  unfold attachText
  cases outcome : (builder.document.appendText parent text).1 with
  | ok _ =>
      refine ⟨builder.refusal, ?_⟩
      simp only [outcome]
  | error refusal =>
      refine ⟨builder.refusal.or refusal, ?_⟩
      simp only [outcome]

theorem mergeAttributes_eq (builder : Builder) (node : NodeId)
    (attributes : TagAttributes) :
    builder.mergeAttributes (some node) attributes = builder ∨
      ∃ element, builder.document.element? node = some element ∧
        builder.mergeAttributes (some node) attributes =
          { builder with
            document :=
              builder.document.setData node
                (.element (element.addAttributes attributes)) } := by
  unfold mergeAttributes
  cases present : builder.document.element? node with
  | none => exact Or.inl (by simp only [present])
  | some element => exact Or.inr ⟨element, rfl, by simp only [present]⟩

/-! ### The moves -/

/-- The node below which elements and comments are added. -/
def Hosts (builder : Builder) (parent : NodeId) : Prop :=
  (builder.mode = .inBody ∧ builder.current? = some parent) ∨
    (builder.mode = .inHead ∧ builder.head = some parent)

/-- A start tag adds its element below `parent`. -/
structure Inserts (builder : Builder) (parent : NodeId) (ns : Namespace)
    (name : String) (attributes : TagAttributes) : Prop where
  hosts : Hosts builder parent
  tag : IsTag name attributes
  html : ns = .html →
    name ∉ ["html", "head", "body", "svg", "math", "frameset"]
  head : builder.mode = .inHead → ns = .html ∧ isHeadElement name = true
  foreign : ns ≠ .html → builder.inForeignContent = true →
    builder.currentElement?.map Element.ns = some ns ∧
      breaksOut name attributes = false
  entry : ns ≠ .html → builder.inForeignContent = false → name = entryName ns

/-- A new `html`, with what follows in front of the head. -/
def enterHtml (builder : Builder) : Builder :=
  let added := builder.attach Document.root (.element (.html "html"))
  { added.2 with html := some added.1, mode := .beforeHead }

/-- A new `head` below `html`, with what follows inside it. -/
def enterHead (builder : Builder) (html : NodeId) : Builder :=
  let added := builder.attach html (.element (.html "head"))
  { added.2 with head := some added.1, openNodes := [added.1], mode := .inHead }

/-- A new `body` below `html`, with what follows inside it. -/
def enterBody (builder : Builder) (html : NodeId) : Builder :=
  let added := builder.attach html (.element (.html "body"))
  { added.2 with body := some added.1, openNodes := [added.1], mode := .inBody }

/-- One of the outer elements of a builder. -/
def IsOuter (builder : Builder) (node : NodeId) : Prop :=
  builder.html = some node ∨ builder.head = some node ∨
    builder.body = some node

/-- One of the outer elements is added, or gets further attributes. -/
inductive Supply : Builder → Builder → Prop where
  | merge {builder : Builder} {node : NodeId} {attributes : TagAttributes} :
      builder.fragment = false → IsOuter builder node →
      AreTagAttributes attributes →
      Supply builder (builder.mergeAttributes (some node) attributes)
  | enterHtml {builder : Builder} :
      builder.mode = .beforeHtml → Supply builder builder.enterHtml
  | enterHead {builder : Builder} {html : NodeId} :
      builder.mode = .beforeHead → builder.html = some html →
      Supply builder (builder.enterHead html)
  | enterBody {builder : Builder} {html : NodeId} :
      builder.mode = .inHead ∨ builder.mode = .afterHead →
      builder.html = some html →
      Supply builder (builder.enterBody html)

abbrev Supplies : Builder → Builder → Prop :=
  Relation.ReflTransGen Supply

/-- A move that opens no element but the outermost one. -/
inductive Shift : Builder → Builder → Prop where
  | supply {builder after : Builder} :
      Supply builder after → Shift builder after
  | close {builder : Builder} {nodes : List NodeId} :
      nodes <:+ builder.openNodes → nodes ≠ [] →
      Shift builder { builder with openNodes := nodes }
  | stray {builder : Builder} (name : String) :
      Shift builder
        { builder with strayEndTags := builder.strayEndTags ++ [name] }
  | doctype {builder : Builder} {name : String} :
      IsDoctypeName name → builder.mode = .beforeHtml →
      Shift builder (builder.attach Document.root (.doctype name)).2
  | comment {builder : Builder} {parent : NodeId} {text : String} :
      (builder.mode = .beforeHtml ∧ parent = Document.root) ∨
        (builder.mode = .beforeHead ∧ builder.html = some parent) ∨
        (builder.mode = .afterHead ∧ builder.html = some parent) ∨
        Hosts builder parent →
      IsCommentText text →
      Shift builder (builder.attach parent (.comment text)).2
  /-- Text inside an element.  Directly inside the head it is white space. -/
  | text {builder : Builder} {parent : NodeId} (text : String) :
      (builder.mode = .inHead ∧ builder.current? = some parent ∧
          builder.head ≠ some parent) ∨
        (Hosts builder parent ∧
          (builder.mode = .inHead → isWhitespace text = true)) →
      Shift builder (builder.attachText (some parent) text)
  /-- White space behind the head. -/
  | space {builder : Builder} {html : NodeId} {text : String} :
      builder.mode = .afterHead → builder.html = some html →
      isWhitespace text = true →
      Shift builder (builder.attachText (some html) text)
  /-- A void element, or a foreign one whose tag closes itself. -/
  | leaf {builder : Builder} {parent : NodeId} {ns : Namespace}
      {name : String} {attributes : TagAttributes} :
      Inserts builder parent ns name attributes →
      (ns = .html → isVoid name = true) →
      Shift builder
        (builder.attach parent (.element (elementOf ns name attributes))).2
  /-- An element that the limit keeps closed. -/
  | flatten {builder : Builder} {parent : NodeId} {ns : Namespace}
      {name : String} {attributes : TagAttributes} :
      Inserts builder parent ns name attributes →
      (ns = .html → isVoid name = false) →
      builder.maxDepth ≤ builder.openNodes.length →
      Shift builder
        { (builder.attach parent
            (.element (elementOf ns name attributes))).2 with
          tooDeep := true }
  /-- The innermost element in the head is closed. -/
  | closeInHead {builder : Builder} {element : Element} :
      builder.mode = .inHead → builder.currentElement? = some element →
      isHeadElement element.localName = true →
      Shift builder { builder with openNodes := builder.openNodes.tail }
  | leaveHead {builder : Builder} {nodes : List NodeId} :
      builder.mode = .inHead → nodes <:+ builder.openNodes →
      Shift builder { builder with openNodes := nodes, mode := .afterHead }
  | reenterHead {builder : Builder} {head : NodeId} :
      builder.mode = .afterHead → builder.head = some head →
      Shift builder { builder with openNodes := [head], mode := .inHead }

abbrev Shifts : Builder → Builder → Prop :=
  Relation.ReflTransGen Shift

theorem Supplies.shifts (supplies : Supplies before after) :
    Shifts before after := by
  induction supplies with
  | refl => exact .refl
  | tail _ supply earlier => exact .tail earlier (.supply supply)

/-- An element is added and opened; the switch says how its text is read. -/
inductive Opening : Builder → Option TextSwitch → Builder → Prop where
  | opened {builder : Builder} {parent : NodeId} {ns : Namespace}
      {name : String} {attributes : TagAttributes} :
      Inserts builder parent ns name attributes →
      (ns = .html → isVoid name = false) →
      builder.openNodes.length < builder.maxDepth →
      Opening builder (textSwitch? (elementOf ns name attributes))
        { (builder.attach parent
            (.element (elementOf ns name attributes))).2 with
          openNodes :=
            (builder.attach parent
              (.element (elementOf ns name attributes))).1 ::
                builder.openNodes }

/-- What one token does.  A paragraph that an end tag supplies is opened and
closed again. -/
inductive Effect (start : Builder) : Option TextSwitch → Builder → Prop where
  | shifted {after : Builder} : Shifts start after → Effect start none after
  | opened {middle after : Builder} {switch : Option TextSwitch} :
      Shifts start middle → Opening middle switch after →
      Effect start switch after
  | closed {middle opened after : Builder} :
      Shifts start middle → Opening middle none opened →
      Shifts opened after → Effect start none after

theorem Effect.supplied {start after : Builder}
    (supplies : Supplies start after) : Effect start none after :=
  .shifted supplies.shifts

theorem Effect.behind {start middle after : Builder}
    {switch : Option TextSwitch} (shifts : Shifts start middle)
    (effect : Effect middle switch after) : Effect start switch after := by
  cases effect with
  | shifted later => exact .shifted (shifts.trans later)
  | opened later opening => exact .opened (shifts.trans later) opening
  | closed later opening closing =>
      exact .closed (shifts.trans later) opening closing

theorem Effect.ahead {start middle after : Builder}
    (effect : Effect start none middle) (shifts : Shifts middle after) :
    Effect start none after := by
  cases effect with
  | shifted earlier => exact .shifted (earlier.trans shifts)
  | opened earlier opening => exact .closed earlier opening shifts
  | closed earlier opening closing =>
      exact .closed earlier opening (closing.trans shifts)

/-- A property of builders that every move keeps. -/
structure Lasting (holds : Builder → Prop) : Prop where
  shift : ∀ before after, Shift before after → holds before → holds after
  opening : ∀ before switch after, Opening before switch after →
    holds before → holds after

theorem Lasting.shifts {holds : Builder → Prop} (lasting : Lasting holds)
    (shifts : Shifts before after) (start : holds before) : holds after := by
  induction shifts with
  | refl => exact start
  | tail _ shift earlier => exact lasting.shift _ _ shift earlier

theorem Lasting.effect {holds : Builder → Prop} (lasting : Lasting holds)
    {switch : Option TextSwitch} (effect : Effect before switch after)
    (start : holds before) : holds after := by
  cases effect with
  | shifted shifts => exact lasting.shifts shifts start
  | opened shifts opening =>
      exact lasting.opening _ _ _ opening (lasting.shifts shifts start)
  | closed shifts opening closing =>
      have opened := lasting.opening _ _ _ opening
        (lasting.shifts shifts start)
      exact lasting.shifts closing opened

/-! ### Where a builder stands -/

/-- The outer elements that exist, by how far a document has been read. -/
def HasParts (builder : Builder) : Prop :=
  match builder.mode with
  | .beforeHtml =>
      builder.html = none ∧ builder.head = none ∧ builder.body = none
  | .beforeHead =>
      (∃ html, builder.html = some html) ∧ builder.head = none ∧
        builder.body = none
  | .inHead | .afterHead =>
      (∃ html, builder.html = some html) ∧
        (∃ head, builder.head = some head) ∧ builder.body = none
  | .inBody =>
      (∃ html, builder.html = some html) ∧
        (∃ head, builder.head = some head) ∧
          ∃ body, builder.body = some body

/-- A builder as it comes about when tokens are added. -/
structure Situated (builder : Builder) : Prop where
  whole : builder.fragment = false → HasParts builder
  inside : builder.fragment = true → builder.mode = .inBody
  opened : builder.mode = .inBody → builder.openNodes ≠ []

theorem Situated.congr (situated : Situated before)
    (fragment : after.fragment = before.fragment)
    (mode : after.mode = before.mode)
    (parts : after.html = before.html ∧ after.head = before.head ∧
      after.body = before.body)
    (opened : before.openNodes ≠ [] → after.openNodes ≠ []) :
    Situated after := by
  refine ⟨?_, ?_, ?_⟩
  · intro whole
    have same := situated.whole (fragment.symm.trans whole)
    rw [HasParts, mode, parts.1, parts.2.1, parts.2.2]
    exact same
  · intro isFragment
    rw [mode]
    exact situated.inside (fragment.symm.trans isFragment)
  · intro inBody
    exact opened (situated.opened (mode.symm.trans inBody))

/-- Outside the body a whole document is built. -/
theorem Situated.whole_of_mode (situated : Situated builder)
    (outside : builder.mode ≠ .inBody) : builder.fragment = false := by
  cases fragment : builder.fragment with
  | false => rfl
  | true => exact absurd (situated.inside fragment) outside

theorem Situated.parts_of_mode (situated : Situated builder)
    {mode : InsertionMode} (isMode : builder.mode = mode)
    (outside : mode ≠ .inBody) : HasParts builder :=
  situated.whole (situated.whole_of_mode (isMode ▸ outside))

/-- Inside the head and behind it there are `html` and `head`, and no `body`. -/
theorem Situated.parts_behind_head (situated : Situated builder)
    (mode : builder.mode = .inHead ∨ builder.mode = .afterHead) :
    (∃ html, builder.html = some html) ∧
      (∃ head, builder.head = some head) ∧ builder.body = none := by
  rcases mode with mode | mode
  · have parts := situated.parts_of_mode mode (by decide)
    rwa [HasParts, mode] at parts
  · have parts := situated.parts_of_mode mode (by decide)
    rwa [HasParts, mode] at parts

private theorem Situated.attach (situated : Situated builder) (parent : NodeId)
    (data : NodeData) : Situated (builder.attach parent data).2 := by
  obtain ⟨_, same⟩ := builder.attach_snd parent data
  rw [same]
  exact situated.congr rfl rfl ⟨rfl, rfl, rfl⟩ id

private theorem Situated.attachText (situated : Situated builder)
    (parent : NodeId) (text : String) :
    Situated (builder.attachText (some parent) text) := by
  obtain ⟨_, same⟩ := builder.attachText_eq parent text
  rw [same]
  exact situated.congr rfl rfl ⟨rfl, rfl, rfl⟩ id

theorem Situated.supply (situated : Situated before)
    (supply : Supply before after) : Situated after := by
  cases supply with
  | @merge node attributes _ _ _ =>
      rcases before.mergeAttributes_eq node attributes with same | ⟨_, _, same⟩
      · rw [same]
        exact situated
      · rw [same]
        exact situated.congr rfl rfl ⟨rfl, rfl, rfl⟩ id
  | enterHtml mode =>
      have parts := situated.parts_of_mode mode (by decide)
      have whole := situated.whole_of_mode (by rw [mode]; decide)
      rw [HasParts, mode] at parts
      obtain ⟨_, same⟩ :=
        before.attach_snd Document.root (.element (.html "html"))
      unfold enterHtml
      simp only [same]
      refine ⟨fun _ => ⟨⟨_, rfl⟩, parts.2⟩, ?_, InsertionMode.noConfusion⟩
      exact fun fragment => absurd (whole.symm.trans fragment) (by decide)
  | @enterHead html mode _ =>
      have parts := situated.parts_of_mode mode (by decide)
      have whole := situated.whole_of_mode (by rw [mode]; decide)
      rw [HasParts, mode] at parts
      obtain ⟨_, same⟩ := before.attach_snd html (.element (.html "head"))
      unfold enterHead
      simp only [same]
      refine ⟨fun _ => ⟨parts.1, ⟨_, rfl⟩, parts.2.2⟩, ?_,
        InsertionMode.noConfusion⟩
      exact fun fragment => absurd (whole.symm.trans fragment) (by decide)
  | @enterBody html mode _ =>
      have parts := situated.parts_behind_head mode
      obtain ⟨_, same⟩ := before.attach_snd html (.element (.html "body"))
      unfold enterBody
      simp only [same]
      refine ⟨fun _ => ⟨parts.1, parts.2.1, ⟨_, rfl⟩⟩, fun _ => rfl, ?_⟩
      exact fun _ => List.cons_ne_nil _ _

theorem Situated.shift (situated : Situated before)
    (shift : Shift before after) : Situated after := by
  cases shift with
  | supply supply => exact situated.supply supply
  | close _ notEmpty =>
      exact situated.congr rfl rfl ⟨rfl, rfl, rfl⟩ fun _ => notEmpty
  | stray name => exact situated.congr rfl rfl ⟨rfl, rfl, rfl⟩ id
  | doctype _ _ => exact situated.attach _ _
  | comment _ _ => exact situated.attach _ _
  | text _ _ => exact situated.attachText _ _
  | space _ _ _ => exact situated.attachText _ _
  | leaf _ _ => exact situated.attach _ _
  | flatten _ _ _ =>
      exact (situated.attach _ _).congr rfl rfl ⟨rfl, rfl, rfl⟩ id
  | closeInHead mode _ _ =>
      refine ⟨situated.whole, situated.inside, ?_⟩
      intro inBody
      exact absurd (mode.symm.trans inBody) (by decide)
  | leaveHead mode _ =>
      have parts := situated.parts_of_mode mode (by decide)
      have whole := situated.whole_of_mode (by rw [mode]; decide)
      rw [HasParts, mode] at parts
      refine ⟨fun _ => parts, ?_, InsertionMode.noConfusion⟩
      exact fun fragment => absurd (whole.symm.trans fragment) (by decide)
  | reenterHead mode _ =>
      have parts := situated.parts_of_mode mode (by decide)
      have whole := situated.whole_of_mode (by rw [mode]; decide)
      rw [HasParts, mode] at parts
      refine ⟨fun _ => parts, ?_, InsertionMode.noConfusion⟩
      exact fun fragment => absurd (whole.symm.trans fragment) (by decide)

theorem Situated.supplies (situated : Situated before)
    (supplies : Supplies before after) : Situated after := by
  induction supplies with
  | refl => exact situated
  | tail _ supply earlier => exact earlier.supply supply

theorem Situated.opening (situated : Situated before)
    {switch : Option TextSwitch} (opening : Opening before switch after) :
    Situated after := by
  cases opening with
  | opened _ _ _ =>
      exact (situated.attach _ _).congr rfl rfl ⟨rfl, rfl, rfl⟩
        fun _ => List.cons_ne_nil _ _

private theorem fixed_attach (builder : Builder) (parent : NodeId)
    (data : NodeData) :
    (builder.attach parent data).2.fragment = builder.fragment ∧
      (builder.attach parent data).2.maxDepth = builder.maxDepth := by
  obtain ⟨_, same⟩ := builder.attach_snd parent data
  rw [same]
  exact ⟨rfl, rfl⟩

private theorem fixed_attachText (builder : Builder) (parent : NodeId)
    (text : String) :
    (builder.attachText (some parent) text).fragment = builder.fragment ∧
      (builder.attachText (some parent) text).maxDepth = builder.maxDepth := by
  obtain ⟨_, same⟩ := builder.attachText_eq parent text
  rw [same]
  exact ⟨rfl, rfl⟩

private theorem Supply.fixed (supply : Supply before after) :
    after.fragment = before.fragment ∧ after.maxDepth = before.maxDepth := by
  cases supply with
  | @merge node attributes _ _ _ =>
      rcases before.mergeAttributes_eq node attributes with same | ⟨_, _, same⟩
      · rw [same]
        exact ⟨rfl, rfl⟩
      · rw [same]
        exact ⟨rfl, rfl⟩
  | enterHtml _ => exact fixed_attach _ _ _
  | enterHead _ _ => exact fixed_attach _ _ _
  | enterBody _ _ => exact fixed_attach _ _ _

/-- No move changes the limit, or whether a fragment is built. -/
theorem Shift.fixed (shift : Shift before after) :
    after.fragment = before.fragment ∧ after.maxDepth = before.maxDepth := by
  cases shift with
  | supply supply => exact supply.fixed
  | close _ _ => exact ⟨rfl, rfl⟩
  | stray _ => exact ⟨rfl, rfl⟩
  | doctype _ _ => exact fixed_attach _ _ _
  | comment _ _ => exact fixed_attach _ _ _
  | text _ _ => exact fixed_attachText _ _ _
  | space _ _ _ => exact fixed_attachText _ _ _
  | leaf _ _ => exact fixed_attach _ _ _
  | flatten _ _ _ => exact fixed_attach _ _ _
  | closeInHead _ _ _ => exact ⟨rfl, rfl⟩
  | leaveHead _ _ => exact ⟨rfl, rfl⟩
  | reenterHead _ _ => exact ⟨rfl, rfl⟩

theorem Opening.fixed {switch : Option TextSwitch}
    (opening : Opening before switch after) :
    after.fragment = before.fragment ∧ after.maxDepth = before.maxDepth := by
  cases opening with
  | opened _ _ _ => exact fixed_attach _ _ _

theorem lasting_fragment (fragment : Bool) :
    Lasting fun builder => builder.fragment = fragment where
  shift := fun _ _ shift same => shift.fixed.1.trans same
  opening := fun _ _ _ opening same => opening.fixed.1.trans same

theorem lasting_situated : Lasting Situated where
  shift := fun _ _ shift situated => situated.shift shift
  opening := fun _ _ _ opening situated => situated.opening opening

end Builder

end MarkupHarden.Html
