import MarkupHarden.Html.Parser
import MarkupHarden.Proofs.Html.Moves

/-!
# Tokens as moves

Every token has the `Effect` of moves of the builder, in each of the modes in
which a document is read: `effect_step`.  What every move keeps is thus kept
by whole markups, `Lasting.run`.
-/

namespace MarkupHarden.Html

open Dom (Document Element Namespace NodeData NodeId)

namespace Builder

variable {builder : Builder}

/-! ### Closing elements -/

/-- Some of the innermost open elements are closed, but not all of them. -/
def Narrows (before after : Builder) : Prop :=
  ∃ nodes, nodes <:+ before.openNodes ∧
    (nodes = before.openNodes ∨ nodes ≠ []) ∧
      after = { before with openNodes := nodes }

theorem Narrows.refl (builder : Builder) : Narrows builder builder :=
  ⟨builder.openNodes, List.suffix_rfl, Or.inl rfl, rfl⟩

theorem Narrows.trans {first second third : Builder}
    (before : Narrows first second) (after : Narrows second third) :
    Narrows first third := by
  obtain ⟨_, within, some, rfl⟩ := before
  obtain ⟨nodes, withinLater, someLater, rfl⟩ := after
  refine ⟨nodes, withinLater.trans within, ?_, rfl⟩
  rcases someLater with rfl | notEmpty
  · exact some
  · exact Or.inr notEmpty

theorem Narrows.shifts {after : Builder} (narrows : Narrows builder after) :
    Shifts builder after := by
  obtain ⟨nodes, within, rfl | notEmpty, rfl⟩ := narrows
  · exact .refl
  · exact .single (.close within notEmpty)

theorem closeTarget?_suffix {judge : NodeId → Verdict}
    {nodes rest : List NodeId} (found : closeTarget? judge nodes = some rest) :
    rest <:+ nodes ∧ rest ≠ [] := by
  fun_induction closeTarget? judge nodes with
  | case1 => contradiction
  | case2 => contradiction
  | case3 _ _ notSingle =>
      cases found
      exact ⟨List.suffix_cons _ _, notSingle⟩
  | case4 => contradiction
  | case5 _ _ _ _ induction =>
      obtain ⟨within, notEmpty⟩ := induction found
      exact ⟨within.trans (List.suffix_cons _ _), notEmpty⟩

theorem narrows_closeTarget (builder : Builder)
    (judge : NodeId → Verdict) :
    Narrows builder
      { builder with
        openNodes :=
          (closeTarget? judge builder.openNodes).getD builder.openNodes } := by
  cases found : closeTarget? judge builder.openNodes with
  | none => exact .refl builder
  | some rest =>
      obtain ⟨within, notEmpty⟩ := closeTarget?_suffix found
      exact ⟨rest, within, Or.inr notEmpty, rfl⟩

theorem narrows_closeCurrent (builder : Builder)
    (names : List String) : Narrows builder (builder.closeCurrent names) := by
  unfold closeCurrent
  split
  next node outer rest isOpen =>
    split
    · refine ⟨outer :: rest, ?_, Or.inr (List.cons_ne_nil _ _), rfl⟩
      rw [isOpen]
      exact List.suffix_cons _ _
    · exact .refl builder
  next => exact .refl builder

private theorem narrows_closeParagraph (builder : Builder) :
    Narrows builder builder.closeParagraph :=
  narrows_closeTarget builder _

theorem narrows_closeImplied (builder : Builder) (name : String) :
    Narrows builder (builder.closeImplied name) := by
  have first : Narrows builder
      (if name = "a" then builder.closeNamed "a" anchorBoundaries
      else if name = "li" then builder.closeItem ["li"]
      else if name = "dd" || name = "dt" then builder.closeItem ["dd", "dt"]
      else if name = "option" then builder.closeCurrent ["option"]
      else if name = "optgroup" then
        builder.closeCurrent ["option", "optgroup"]
      else if isHeading name then
        builder.closeParagraph.closeCurrent ["h1", "h2", "h3", "h4", "h5", "h6"]
      else builder) := by
    split
    · exact narrows_closeTarget builder _
    split
    · exact narrows_closeTarget builder _
    split
    · exact narrows_closeTarget builder _
    split
    · exact narrows_closeCurrent builder _
    split
    · exact narrows_closeCurrent builder _
    split
    · exact (narrows_closeParagraph builder).trans (narrows_closeCurrent _ _)
    · exact .refl builder
  rw [closeImplied]
  split
  · exact first.trans (narrows_closeParagraph _)
  · exact first

private theorem leaveForeign_suffix (document : Document)
    (nodes : List NodeId) :
    leaveForeign document nodes <:+ nodes ∧
      (leaveForeign document nodes = nodes ∨
        leaveForeign document nodes ≠ []) := by
  fun_induction leaveForeign document nodes with
  | case1 _ outer rest _ induction =>
      obtain ⟨within, some⟩ := induction
      refine ⟨within.trans (List.suffix_cons _ _), Or.inr ?_⟩
      rcases some with same | notEmpty
      · rw [same]
        exact List.cons_ne_nil _ _
      · exact notEmpty
  | case2 => exact ⟨List.suffix_rfl, Or.inl rfl⟩
  | case3 => exact ⟨List.suffix_rfl, Or.inl rfl⟩

theorem narrows_leaveForeign (builder : Builder) :
    Narrows builder
      { builder with
        openNodes := leaveForeign builder.document builder.openNodes } := by
  obtain ⟨within, some⟩ :=
    leaveForeign_suffix builder.document builder.openNodes
  exact ⟨_, within, some, rfl⟩

theorem Narrows.isOpen {after : Builder} (narrows : Narrows builder after)
    (isOpen : builder.openNodes ≠ []) : after.openNodes ≠ [] := by
  obtain ⟨nodes, _, rfl | notEmpty, rfl⟩ := narrows
  · exact isOpen
  · exact notEmpty

theorem Narrows.mode_eq {after : Builder} (narrows : Narrows builder after) :
    after.mode = builder.mode := by
  obtain ⟨_, _, _, rfl⟩ := narrows
  rfl

/-! ### Adding elements -/

/-- A new element is opened unless the limit is reached. -/
private theorem effect_openNode {parent : NodeId} {ns : Namespace}
    {name : String} {attributes : TagAttributes}
    (inserts : Inserts builder parent ns name attributes)
    (notVoid : ns = .html → isVoid name = false) :
    let added := builder.attach parent (.element (elementOf ns name attributes))
    Effect builder
      (if (added.2.openNode added.1).1 then
        textSwitch? (elementOf ns name attributes)
      else none)
      (added.2.openNode added.1).2 := by
  intro added
  obtain ⟨_, same⟩ := builder.attach_snd parent
    (.element (elementOf ns name attributes))
  rcases Nat.lt_or_ge builder.openNodes.length builder.maxDepth with
    short | deep
  · have opened : added.2.openNode added.1 =
        (true,
          { added.2 with openNodes := added.1 :: builder.openNodes }) := by
      have isShort : added.2.openNodes.length < added.2.maxDepth := by
        rw [same]
        exact short
      rw [openNode_eq isShort, same]
    rw [opened]
    exact .opened .refl (.opened inserts notVoid short)
  · have closed : added.2.openNode added.1 =
        (false, { added.2 with tooDeep := true }) := by
      have isDeep : added.2.maxDepth ≤ added.2.openNodes.length := by
        rw [same]
        exact deep
      rw [openNode_of_deep isDeep]
    rw [closed]
    exact .shifted (.single (.flatten inserts notVoid deep))

private theorem effect_insertHtml {parent : NodeId} {name : String}
    {attributes : TagAttributes}
    (inserts : Inserts builder parent .html name attributes) :
    Effect builder (builder.insertHtml (some parent) name attributes).1
      (builder.insertHtml (some parent) name attributes).2 := by
  unfold insertHtml
  simp only [← elementOf_html]
  split
  next void => exact .shifted (.single (.leaf inserts fun _ => void))
  next notVoid =>
    exact effect_openNode inserts fun _ => Bool.eq_false_iff.mpr notVoid

private theorem effect_insertForeign {parent : NodeId} {name : String}
    {attributes : TagAttributes} {ns : Namespace} (foreign : ns ≠ .html)
    (current : builder.current? = some parent)
    (inserts : Inserts builder parent ns name attributes)
    (selfClosing : Bool) :
    Effect builder none
      (builder.insertForeign name attributes ns selfClosing) := by
  have noSwitch : textSwitch? (elementOf ns name attributes) = none := by
    rw [elementOf_eq inserts.tag, textSwitch?, if_neg foreign]
  have added := effect_openNode inserts fun html => absurd html foreign
  simp only [noSwitch, ite_self] at added
  have leaf := Shift.leaf inserts fun html => absurd html foreign
  unfold elementOf at added leaf
  unfold insertForeign
  rw [current, Option.getD_some]
  dsimp only
  split
  · exact .shifted (.single leaf)
  · exact added

/-- Attributes are merged into one of the outer elements, if it is there. -/
private theorem supplies_merge (whole : builder.fragment = false)
    {target : Option NodeId}
    (isOuter : target = builder.html ∨ target = builder.head ∨
      target = builder.body) {attributes : TagAttributes}
    (are : AreTagAttributes attributes) :
    Supplies builder (builder.mergeAttributes target attributes) := by
  cases target with
  | none => exact .refl
  | some node =>
      refine .single (.merge whole ?_ are)
      rcases isOuter with html | head | body
      · exact Or.inl html.symm
      · exact Or.inr (Or.inl head.symm)
      · exact Or.inr (Or.inr body.symm)

/-! ### Content of the body -/

private theorem breaksOut_of_entry {name : String}
    (isEntry : name = "svg" ∨ name = "math") (attributes : TagAttributes) :
    breaksOut name attributes = false := by
  rcases isEntry with rfl | rfl <;> rfl

section

variable (mode : builder.mode = .inBody) (isOpen : builder.openNodes ≠ [])

include mode isOpen

private theorem exists_current :
    ∃ node, builder.current? = some node ∧ Hosts builder node := by
  obtain ⟨node, rest, nodes⟩ := List.exists_cons_of_ne_nil isOpen
  have current : builder.current? = some node := by
    rw [current?, nodes]
    rfl
  exact ⟨node, current, Or.inl ⟨mode, current⟩⟩

private theorem effect_htmlStartTag {name : String}
    {attributes : TagAttributes} (tag : IsTag name attributes)
    (outside : name = "svg" ∨ name = "math" →
      builder.inForeignContent = false) (selfClosing : Bool) :
    Effect builder (builder.htmlStartTag name attributes selfClosing).1
      (builder.htmlStartTag name attributes selfClosing).2 := by
  have notInHead : ∀ {ns : Namespace}, builder.mode = .inHead →
      ns = .html ∧ isHeadElement name = true := by
    intro ns inHead
    rw [mode] at inHead
    contradiction
  obtain ⟨node, current, hosts⟩ := exists_current mode isOpen
  unfold htmlStartTag
  split
  next =>
    dsimp only
    split
    · exact .shifted .refl
    next document =>
      exact .supplied (supplies_merge (Bool.eq_false_iff.mpr document)
        (Or.inl rfl) tag.toAreTagAttributes)
  split
  next =>
    dsimp only
    split
    · exact .shifted .refl
    next document =>
      exact .supplied (supplies_merge (Bool.eq_false_iff.mpr document)
        (Or.inr (Or.inr rfl)) tag.toAreTagAttributes)
  split
  next => exact .shifted .refl
  split
  next isSvg =>
    have inserts : Inserts builder node .svg name attributes := by
      refine ⟨hosts, tag, nofun, notInHead, ?_, fun _ _ => isSvg⟩
      intro _ inside
      rw [outside (Or.inl isSvg)] at inside
      contradiction
    exact effect_insertForeign (by decide) current inserts selfClosing
  split
  next isMath =>
    have inserts : Inserts builder node .mathml name attributes := by
      refine ⟨hosts, tag, nofun, notInHead, ?_, fun _ _ => isMath⟩
      intro _ inside
      rw [outside (Or.inr isMath)] at inside
      contradiction
    exact effect_insertForeign (by decide) current inserts selfClosing
  next notHtml notBody notHead notSvg notMath =>
    have narrows := narrows_closeImplied builder name
    have stillBody := narrows.mode_eq.trans mode
    obtain ⟨outer, isOuter, holds⟩ :=
      exists_current stillBody (narrows.isOpen isOpen)
    rw [Bool.or_eq_true, decide_eq_true_eq, decide_eq_true_eq, not_or]
      at notHead
    dsimp only
    rw [isOuter]
    refine .behind narrows.shifts
      (effect_insertHtml ⟨holds, tag, ?_, ?_, nofun, nofun⟩)
    · simp [notHtml, notBody, notHead, notSvg, notMath]
    · intro inHead
      rw [stillBody] at inHead
      contradiction

private theorem effect_bodyStartTag {name : String}
    {attributes : TagAttributes} (tag : IsTag name attributes)
    (selfClosing : Bool) :
    Effect builder (builder.bodyStartTag name attributes selfClosing).1
      (builder.bodyStartTag name attributes selfClosing).2 := by
  unfold bodyStartTag
  split
  next inside =>
    split
    next breaks =>
      have narrows := narrows_leaveForeign builder
      refine .behind narrows.shifts (effect_htmlStartTag
        (narrows.mode_eq.trans mode) (narrows.isOpen isOpen) tag ?_ selfClosing)
      intro isEntry
      rw [breaksOut_of_entry isEntry] at breaks
      contradiction
    next stays =>
      obtain ⟨element, current, holdsForeign⟩ :=
        (Option.any_eq_true _ _).mp inside
      obtain ⟨node, isCurrent, hosts⟩ := exists_current mode isOpen
      have ns : (builder.currentElement?.map Element.ns).getD .html =
          element.ns := by
        rw [current]
        rfl
      rw [ns]
      have foreign : element.ns ≠ .html := by
        intro html
        rw [not_holdsForeignContent_of_html html] at holdsForeign
        contradiction
      refine effect_insertForeign foreign isCurrent
        ⟨hosts, tag, fun html => absurd html foreign, ?_, ?_, ?_⟩ selfClosing
      · intro inHead
        rw [mode] at inHead
        contradiction
      · intro _ _
        rw [current]
        exact ⟨rfl, Bool.eq_false_iff.mpr stays⟩
      · intro _ outside
        rw [inside] at outside
        contradiction
  next outside =>
    exact effect_htmlStartTag mode isOpen tag
      (fun _ => Bool.eq_false_iff.mpr outside) selfClosing

private theorem effect_supplied {name : String} (tag : IsTag name [])
    (other : name ∉ ["html", "head", "body", "svg", "math", "frameset"])
    (noMode : textModeOf? (Text.lower name) = none) :
    Effect builder none (builder.insertHtml builder.current? name []).2 := by
  obtain ⟨node, current, hosts⟩ := exists_current mode isOpen
  have inserts : Inserts builder node .html name [] := by
    refine ⟨hosts, tag, fun _ => other, ?_, nofun, nofun⟩
    intro inHead
    rw [mode] at inHead
    contradiction
  have noSwitch : (builder.insertHtml (some node) name []).1 = none := by
    have none : textSwitch? ((Element.html name).addAttributes []) = none := by
      change Option.map _ (textModeOf? (Text.lower name)) = none
      rw [noMode]
      rfl
    unfold insertHtml
    simp only [none, ite_self]
    split <;> rfl
  have effect := effect_insertHtml inserts
  rw [noSwitch] at effect
  rw [current]
  exact effect

private theorem effect_bodyEndTag (name : String) :
    Effect builder none (builder.bodyEndTag name) := by
  have empty := areTagAttributes_nil
  unfold bodyEndTag
  split
  · exact .shifted .refl
  split
  · exact effect_supplied mode isOpen ⟨empty, by decide, by decide⟩
      (by decide : "br" ∉ _) rfl
  split
  · have paragraph := effect_supplied mode isOpen
      ⟨empty, by decide, by decide⟩ (by decide : "p" ∉ _) rfl
    exact paragraph.ahead (narrows_closeCurrent _ _).shifts
  split
  next remaining found =>
    obtain ⟨within, notEmpty⟩ := closeTarget?_suffix found
    exact .shifted (.single (.close within notEmpty))
  next => exact .shifted (.single (.stray name))

private theorem effect_inBody {token : Token} (isToken : IsToken token) :
    Effect builder (builder.inBody token).1 (builder.inBody token).2 := by
  obtain ⟨node, current, hosts⟩ := exists_current mode isOpen
  cases token with
  | text text =>
      simp only [inBody, current]
      have outside : builder.mode ≠ .inHead := by
        rw [mode]
        decide
      exact .shifted (.single (.text text
        (Or.inr ⟨hosts, fun inHead => absurd inHead outside⟩)))
  | comment text =>
      simp only [inBody, current]
      have attached : Shift builder (builder.attach node (.comment text)).2 :=
        .comment (Or.inr (Or.inr (Or.inr hosts))) isToken
      exact .shifted (.single attached)
  | doctype name => exact .shifted .refl
  | startTag name attributes selfClosing =>
      exact effect_bodyStartTag mode isOpen isToken selfClosing
  | endTag name => exact effect_bodyEndTag mode isOpen name

end

/-! ### Supplying the outer elements -/

theorem mode_mergeAttributes (builder : Builder)
    (target : Option NodeId) (attributes : TagAttributes) :
    (builder.mergeAttributes target attributes).mode = builder.mode := by
  unfold mergeAttributes
  split
  · rfl
  · split <;> rfl

section

variable (situated : Situated builder) {attributes : TagAttributes}
  (are : AreTagAttributes attributes)

include situated are

theorem supplies_startHtml (mode : builder.mode = .beforeHtml) :
    Supplies builder (builder.startHtml attributes) := by
  have parts := situated.parts_of_mode mode (by decide)
  rw [HasParts, mode] at parts
  have supply := Supply.enterHtml mode
  have whole := (situated.supply supply).whole_of_mode InsertionMode.noConfusion
  have started : builder.startHtml attributes =
      builder.enterHtml.mergeAttributes builder.enterHtml.html attributes := by
    rw [startHtml_eq, withHtml, parts.1]
    unfold enterHtml mergeAttributes
    dsimp only
    split <;> rfl
  rw [started]
  exact .trans (.single supply) (supplies_merge whole (Or.inl rfl) are)

private theorem supplies_startHead_of_beforeHead
    (mode : builder.mode = .beforeHead) :
    Supplies builder (builder.startHead attributes) := by
  have parts := situated.parts_of_mode mode (by decide)
  rw [HasParts, mode] at parts
  obtain ⟨⟨html, isHtml⟩, noHead, _⟩ := parts
  have supply := Supply.enterHead mode isHtml
  have whole := (situated.supply supply).whole_of_mode InsertionMode.noConfusion
  have started : builder.startHead attributes =
      (builder.enterHead html).mergeAttributes (builder.enterHead html).head
        attributes := by
    rw [startHead_eq, isHtml, Option.isNone_some, if_neg Bool.false_ne_true,
      withHead, noHead, attachUnderHtml, isHtml]
    unfold enterHead mergeAttributes
    dsimp only
    split <;> rfl
  rw [started]
  exact .trans (.single supply) (supplies_merge whole (Or.inr (Or.inl rfl)) are)

theorem supplies_startHead
    (mode : builder.mode = .beforeHtml ∨ builder.mode = .beforeHead) :
    Supplies builder (builder.startHead attributes) := by
  rcases mode with mode | mode
  · have parts := situated.parts_of_mode mode (by decide)
    rw [HasParts, mode] at parts
    have started := supplies_startHtml situated areTagAttributes_nil mode
    have later := situated.supplies started
    have isMode : (builder.startHtml []).mode = .beforeHead := rfl
    obtain ⟨⟨html, isHtml⟩, _⟩ := later.parts_of_mode isMode (by decide)
    have same : builder.startHead attributes =
        (builder.startHtml []).startHead attributes := by
      rw [startHead_eq, startHead_eq, isHtml, parts.1]
      rfl
    rw [same]
    exact started.trans (supplies_startHead_of_beforeHead later are isMode)
  · exact supplies_startHead_of_beforeHead situated are mode

private theorem supplies_startBody_of_head
    (mode : builder.mode = .inHead ∨ builder.mode = .afterHead) :
    Supplies builder (builder.startBody attributes) := by
  obtain ⟨⟨html, isHtml⟩, ⟨head, isHead⟩, noBody⟩ :=
    situated.parts_behind_head mode
  have outside : builder.mode ≠ .inBody := by
    rcases mode with mode | mode
    · rw [mode]
      decide
    · rw [mode]
      decide
  have whole := situated.whole_of_mode outside
  obtain ⟨_, attached⟩ := builder.attach_snd html (.element (.html "body"))
  have stillWhole : (builder.enterBody html).fragment = false := by
    unfold enterBody
    simp only [attached]
    exact whole
  have stillOutside : Builder.mode (builder.attach html
      (.element (.html "body"))).2 ≠ .inBody := by
    rw [attached]
    exact outside
  have started : builder.startBody attributes =
      (builder.enterBody html).mergeAttributes (builder.enterBody html).body
        attributes := by
    rw [startBody_eq, isHead, Option.isNone_some, if_neg Bool.false_ne_true,
      withBody, noBody, attachUnderHtml, isHtml]
    dsimp only
    rw [if_neg]
    · unfold enterBody mergeAttributes
      dsimp only
      split <;> rfl
    · rw [mode_mergeAttributes]
      exact stillOutside
  rw [started]
  exact .trans (.single (.enterBody mode isHtml))
    (supplies_merge stillWhole (Or.inr (Or.inr rfl)) are)

/-- Wherever a document has been read to, a body can be supplied. -/
theorem supplies_startBody (whole : builder.fragment = false) :
    Supplies builder (builder.startBody attributes) := by
  have early : builder.mode = .beforeHtml ∨ builder.mode = .beforeHead →
      Supplies builder (builder.startBody attributes) := by
    intro mode
    have started := supplies_startHead situated areTagAttributes_nil mode
    have later := situated.supplies started
    have isMode : (builder.startHead []).mode = .inHead := rfl
    obtain ⟨_, ⟨head, isHead⟩, _⟩ := later.parts_behind_head (Or.inl isMode)
    have noHead : builder.head = none := by
      rcases mode with mode | mode
      · have parts := situated.parts_of_mode mode (by decide)
        rw [HasParts, mode] at parts
        exact parts.2.1
      · have parts := situated.parts_of_mode mode (by decide)
        rw [HasParts, mode] at parts
        exact parts.2.1
    have same : builder.startBody attributes =
        (builder.startHead []).startBody attributes := by
      rw [startBody_eq, startBody_eq, isHead, noHead]
      rfl
    rw [same]
    exact started.trans (supplies_startBody_of_head later are (Or.inl isMode))
  cases mode : builder.mode with
  | beforeHtml => exact early (Or.inl mode)
  | beforeHead => exact early (Or.inr mode)
  | inHead => exact supplies_startBody_of_head situated are (Or.inl mode)
  | afterHead => exact supplies_startBody_of_head situated are (Or.inr mode)
  | inBody =>
      have parts := situated.whole whole
      rw [HasParts, mode] at parts
      obtain ⟨_, ⟨head, isHead⟩, ⟨body, isBody⟩⟩ := parts
      have same : builder.startBody attributes =
          builder.mergeAttributes builder.body attributes := by
        rw [startBody_eq, isHead, Option.isNone_some,
          if_neg Bool.false_ne_true, withBody, isBody]
        dsimp only
        rw [if_pos]
        · rw [isBody]
        · rw [mode_mergeAttributes, mode]
      rw [same]
      exact supplies_merge whole (Or.inr (Or.inr rfl)) are

end

/-! ### The way to the body -/

theorem mode_startBody (builder : Builder)
    (attributes : TagAttributes) :
    (builder.startBody attributes).mode = .inBody := by
  rw [startBody_eq]
  dsimp only
  generalize Builder.mergeAttributes _ _ attributes = later
  split
  next mode => exact mode
  next => rfl

private theorem effect_supplyBody (situated : Situated builder)
    (mode : builder.mode = .afterHead) {token : Token}
    (isToken : IsToken token) :
    Effect builder ((builder.startBody []).inBody token).1
      ((builder.startBody []).inBody token).2 := by
  have whole := situated.whole_of_mode (by rw [mode]; decide)
  have supplies := supplies_startBody situated areTagAttributes_nil whole
  have later := situated.supplies supplies
  have isMode := mode_startBody builder []
  exact .behind supplies.shifts (effect_inBody isMode (later.opened isMode) isToken)

private theorem name_of_isHeadElement {name : String}
    (head : isHeadElement name = true) :
    name ∉ ["html", "head", "body", "svg", "math", "frameset"] := by
  intro member
  simp only [List.mem_cons, List.not_mem_nil, or_false] at member
  rcases member with rfl | rfl | rfl | rfl | rfl | rfl <;>
    simp [isHeadElement] at head

private theorem effect_insertInHead (mode : builder.mode = .inHead)
    {name : String} {attributes : TagAttributes} (tag : IsTag name attributes)
    (head : isHeadElement name = true) (isThere : builder.head ≠ none) :
    Effect builder (builder.insertHtml builder.head name attributes).1
      (builder.insertHtml builder.head name attributes).2 := by
  obtain ⟨node, isHead⟩ := Option.ne_none_iff_exists'.mp isThere
  rw [isHead]
  exact effect_insertHtml ⟨Or.inr ⟨mode, isHead⟩, tag,
    fun _ => name_of_isHeadElement head, fun _ => ⟨rfl, head⟩, nofun, nofun⟩

private theorem effect_afterHead (situated : Situated builder)
    (mode : builder.mode = .afterHead) {token : Token}
    (isToken : IsToken token) :
    Effect builder (builder.afterHead token).1
      (builder.afterHead token).2 := by
  have supplied := effect_supplyBody situated mode isToken
  have whole := situated.whole_of_mode (by rw [mode]; decide)
  obtain ⟨⟨html, isHtml⟩, ⟨head, isHead⟩, _⟩ :=
    situated.parts_behind_head (Or.inr mode)
  unfold afterHead
  cases token with
  | text text =>
      dsimp only
      split
      next blank =>
        rw [isHtml]
        exact .shifted (.single (.space mode isHtml blank))
      next => exact supplied
  | comment text =>
      rw [isHtml]
      have attached : Shift builder (builder.attach html (.comment text)).2 :=
        .comment (Or.inr (Or.inr (Or.inl ⟨mode, isHtml⟩))) isToken
      exact .shifted (.single attached)
  | doctype name => exact .shifted .refl
  | startTag name attributes selfClosing =>
      have tag : IsTag name attributes := isToken
      dsimp only
      split
      · exact .supplied
          (supplies_merge whole (Or.inl rfl) tag.toAreTagAttributes)
      split
      · exact .supplied (supplies_startBody situated tag.toAreTagAttributes whole)
      split
      next inHead =>
        rw [Bool.and_eq_true] at inHead
        have nodes : builder.head.toList = [head] := by
          rw [isHead]
          rfl
        have isThere : builder.head ≠ none := by
          rw [isHead]
          exact Option.some_ne_none head
        rw [nodes]
        exact .behind (.single (.reenterHead mode isHead))
          (effect_insertInHead rfl tag inHead.1 isThere)
      next => exact supplied
  | endTag name => exact .shifted .refl

private theorem effect_inHead (situated : Situated builder)
    (mode : builder.mode = .inHead) {token : Token}
    (isToken : IsToken token) :
    Effect builder (builder.inHead token).1 (builder.inHead token).2 := by
  have whole := situated.whole_of_mode (by rw [mode]; decide)
  obtain ⟨⟨html, isHtml⟩, ⟨head, isHead⟩, _⟩ :=
    situated.parts_behind_head (Or.inl mode)
  have left : Effect builder
      (Builder.afterHead { builder with openNodes := [], mode := .afterHead }
        token).1
      (Builder.afterHead { builder with openNodes := [], mode := .afterHead }
        token).2 := by
    have leave := Shift.leaveHead mode List.nil_suffix
    exact .behind (.single leave)
      (effect_afterHead (situated.shift leave) rfl isToken)
  unfold inHead
  cases token with
  | text text =>
      dsimp only
      split
      next apart =>
        rw [Bool.and_eq_true, decide_eq_true_eq] at apart
        obtain ⟨node, current⟩ := Option.isSome_iff_exists.mp apart.1
        rw [current] at apart ⊢
        exact .shifted (.single (.text text
          (Or.inl ⟨mode, current, apart.2.symm⟩)))
      split
      next blank =>
        rw [isHead]
        exact .shifted (.single (.text text
          (Or.inr ⟨Or.inr ⟨mode, isHead⟩, fun _ => blank⟩)))
      · exact left
  | comment text =>
      rw [isHead]
      have attached : Shift builder (builder.attach head (.comment text)).2 :=
        .comment (Or.inr (Or.inr (Or.inr (Or.inr ⟨mode, isHead⟩)))) isToken
      exact .shifted (.single attached)
  | doctype name => exact .shifted .refl
  | startTag name attributes selfClosing =>
      have tag : IsTag name attributes := isToken
      dsimp only
      split
      next inHead =>
        refine effect_insertInHead mode tag inHead ?_
        rw [isHead]
        exact Option.some_ne_none head
      split
      · exact .supplied
          (supplies_merge whole (Or.inl rfl) tag.toAreTagAttributes)
      split
      · exact .shifted .refl
      · exact left
  | endTag name =>
      dsimp only
      split
      · exact .shifted (.single (.leaveHead mode List.suffix_rfl))
      split
      next named =>
        dsimp only
        split
        next closes =>
          obtain ⟨element, current, same⟩ :=
            (Option.any_eq_true _ _).mp closes
          rw [decide_eq_true_eq] at same
          rw [← same] at named
          exact .shifted (.single (.closeInHead mode current named))
        next => exact .shifted .refl
      · exact left

private theorem effect_beforeHead (situated : Situated builder)
    (mode : builder.mode = .beforeHead) {token : Token}
    (isToken : IsToken token) :
    Effect builder (builder.beforeHead token).1
      (builder.beforeHead token).2 := by
  have whole := situated.whole_of_mode (by rw [mode]; decide)
  have parts := situated.parts_of_mode mode (by decide)
  rw [HasParts, mode] at parts
  obtain ⟨⟨html, isHtml⟩, _⟩ := parts
  have supplied : Effect builder ((builder.startHead []).inHead token).1
      ((builder.startHead []).inHead token).2 := by
    have supplies := supplies_startHead situated areTagAttributes_nil (Or.inr mode)
    have later := situated.supplies supplies
    exact .behind supplies.shifts (effect_inHead later rfl isToken)
  unfold beforeHead
  cases token with
  | text text =>
      dsimp only
      split
      · exact .shifted .refl
      · exact supplied
  | comment text =>
      rw [isHtml]
      have attached : Shift builder (builder.attach html (.comment text)).2 :=
        .comment (Or.inr (Or.inl ⟨mode, isHtml⟩)) isToken
      exact .shifted (.single attached)
  | doctype name => exact .shifted .refl
  | startTag name attributes selfClosing =>
      have tag : IsTag name attributes := isToken
      dsimp only
      split
      · exact .supplied
          (supplies_merge whole (Or.inl rfl) tag.toAreTagAttributes)
      split
      · exact .supplied
          (supplies_startHead situated tag.toAreTagAttributes (Or.inr mode))
      · exact supplied
  | endTag name => exact supplied

private theorem effect_beforeHtml (situated : Situated builder)
    (mode : builder.mode = .beforeHtml) {token : Token}
    (isToken : IsToken token) :
    Effect builder (builder.beforeHtml token).1
      (builder.beforeHtml token).2 := by
  have supplied : Effect builder ((builder.startHtml []).beforeHead token).1
      ((builder.startHtml []).beforeHead token).2 := by
    have supplies := supplies_startHtml situated areTagAttributes_nil mode
    have later := situated.supplies supplies
    exact .behind supplies.shifts (effect_beforeHead later rfl isToken)
  unfold beforeHtml
  cases token with
  | text text =>
      dsimp only
      split
      · exact .shifted .refl
      · exact supplied
  | comment text =>
      have attached : Shift builder
          (builder.attach Document.root (.comment text)).2 :=
        .comment (Or.inl ⟨mode, rfl⟩) isToken
      exact .shifted (.single attached)
  | doctype name => exact .shifted (.single (.doctype isToken mode))
  | startTag name attributes selfClosing =>
      have tag : IsTag name attributes := isToken
      dsimp only
      split
      · exact .supplied (supplies_startHtml situated tag.toAreTagAttributes mode)
      · exact supplied
  | endTag name => exact supplied

/-- Every token has the effect of moves, wherever the builder stands. -/
theorem effect_step (situated : Situated builder) {token : Token}
    (isToken : IsToken token) :
    Effect builder (builder.step token).1 (builder.step token).2 := by
  unfold step
  cases mode : builder.mode with
  | beforeHtml => exact effect_beforeHtml situated mode isToken
  | beforeHead => exact effect_beforeHead situated mode isToken
  | inHead => exact effect_inHead situated mode isToken
  | afterHead => exact effect_afterHead situated mode isToken
  | inBody =>
      exact effect_inBody mode (situated.opened mode) isToken

/-! ### Whole markups -/

theorem situated_forDocument (limit : Nat) : Situated (forDocument limit) :=
  ⟨fun _ => ⟨rfl, rfl, rfl⟩, nofun, nofun⟩

theorem situated_forFragment (document : Document) (context : NodeId)
    (limit : Nat) : Situated (forFragment document context limit) :=
  ⟨nofun, fun _ => rfl, fun _ => List.cons_ne_nil _ _⟩

namespace Lasting

variable {holds : Builder → Prop}

theorem consume (lasting : Lasting holds) (situated : Situated builder)
    (start : holds builder) (lexer : Lexer) :
    Situated (builder.consume lexer) ∧ holds (builder.consume lexer) := by
  induction length : lexer.rest.length using Nat.strong_induction_on
    generalizing builder lexer with
  | _ length induction =>
      rw [consume_eq]
      cases read : lexer.next with
      | mk next after =>
          cases next with
          | none => exact ⟨situated, start⟩
          | some token =>
              have shorter := Lexer.next_length read
              have effect := effect_step situated (Lexer.isToken_next read)
              have stepped := lasting.effect effect start
              have later := lasting_situated.effect effect situated
              simp only
              split
              · exact ⟨later, stepped⟩
              · exact induction after.rest.length (by omega) later stepped _ rfl

/-- What every move keeps is kept by a whole markup. -/
theorem run (lasting : Lasting holds) (situated : Situated builder)
    (start : holds builder) (markup : String) : holds (builder.run markup) := by
  unfold Builder.run
  split
  · exact (lasting.consume situated start _).2
  next whole =>
    obtain ⟨later, consumed⟩ :=
      lasting.consume situated start (Lexer.ofMarkup markup)
    dsimp only
    split
    · exact consumed
    · have still := (lasting_fragment false).consume situated
        (Bool.eq_false_iff.mpr whole) (Lexer.ofMarkup markup)
      have ended := supplies_startBody later areTagAttributes_nil still.2
      exact lasting.shifts ended.shifts consumed

end Lasting

/-- A document that is not given up has all of its outer elements. -/
theorem parts_of_run (situated : Situated builder)
    (whole : builder.fragment = false) {markup : String}
    (goesOn : (builder.run markup).isStopped = false) :
    (∃ html, (builder.run markup).html = some html) ∧
      (∃ head, (builder.run markup).head = some head) ∧
        ∃ body, (builder.run markup).body = some body := by
  have run : builder.run markup =
      (builder.consume (Lexer.ofMarkup markup)).startBody [] := by
    unfold Builder.run at goesOn ⊢
    rw [whole] at goesOn ⊢
    simp only [Bool.false_eq_true, if_false] at goesOn ⊢
    split at goesOn
    next stopped => exact absurd goesOn (by rw [stopped]; decide)
    next notStopped => rw [if_neg notStopped]
  obtain ⟨consumed, still⟩ := (lasting_fragment false).consume situated whole
    (Lexer.ofMarkup markup)
  have supplies := supplies_startBody consumed areTagAttributes_nil still
  have ended := (lasting_fragment false).shifts supplies.shifts still
  have parts := (consumed.supplies supplies).whole ended
  rw [HasParts, mode_startBody] at parts
  rw [run]
  exact parts

/-- A parsed document is what a builder ends with that has not been stopped. -/
theorem eq_run_of_parseDocument {parser : HtmlParser} {markup : String}
    {document : Document}
    (parsed : (parser.parseDocument markup).value = .ok document) :
    document = ((forDocument parser.maxDepth).run markup).document ∧
      ((forDocument parser.maxDepth).run markup).isStopped = false := by
  unfold HtmlParser.parseDocument at parsed
  dsimp only at parsed
  split at parsed
  · cases parsed
  next fine =>
    cases parsed
    refine ⟨rfl, ?_⟩
    unfold fault? at fine
    split at fine
    · cases fine
    · split at fine
      · cases fine
      next goesOn => exact Bool.eq_false_iff.mpr goesOn

end Builder

end MarkupHarden.Html
