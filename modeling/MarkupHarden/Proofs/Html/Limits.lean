import MarkupHarden.Proofs.Html.Parsed

/-!
# Limits that are not reached

A builder asks for its limit only where it opens an element.  As long as every
element could be opened, a larger limit makes no difference: not to the tree,
nor to anything else that is reported.  Once the limit is reached this is no
longer so, because an element that stays closed loses the text mode of its
content.
-/

namespace MarkupHarden.Html

open Dom (Document Element Namespace NodeData NodeId)

namespace Builder

/-- The builder with another limit. -/
def withLimit (builder : Builder) (limit : Nat) : Builder :=
  { builder with maxDepth := limit }

/-- Something about a builder that its limit has no part in. -/
def Indifferent {α : Type} (reading : Builder → α) : Prop :=
  ∀ builder limit, reading (builder.withLimit limit) = reading builder

/-- A change in which the limit has no part. -/
def Unlimited (change : Builder → Builder) : Prop :=
  ∀ builder limit,
    change (builder.withLimit limit) = (change builder).withLimit limit

/-- A change that is the same under a larger limit, unless the smaller one is
reached. -/
def Roomy (change : Builder → Option TextSwitch × Builder) : Prop :=
  ∀ builder limit, builder.maxDepth ≤ limit →
    (change builder).2.tooDeep = false →
      change (builder.withLimit limit) =
        ((change builder).1, (change builder).2.withLimit limit)

section Combining

variable {change next : Builder → Builder}
  {result other : Builder → Option TextSwitch × Builder}

theorem Unlimited.maxDepth (unlimited : Unlimited change) (builder : Builder) :
    (change builder).maxDepth = builder.maxDepth := by
  have same : (change builder).maxDepth =
      ((change builder).withLimit builder.maxDepth).maxDepth :=
    congrArg Builder.maxDepth (unlimited builder builder.maxDepth)
  exact same

/-- What is known for one limit is known for all. -/
theorem Unlimited.eq_withLimit (unlimited : Unlimited change)
    {start last : Builder} (changed : change start = last) (limit : Nat) :
    change (start.withLimit limit) = last.withLimit limit := by
  rw [unlimited, changed]

theorem Unlimited.trans (first : Unlimited change) (second : Unlimited next) :
    Unlimited fun builder => next (change builder) := by
  intro builder limit
  beta_reduce
  rw [first builder limit, second]

theorem Unlimited.ite {test : Builder → Prop} [DecidablePred test]
    (same : Indifferent test)
    (unlimited : Unlimited change) (otherwise : Unlimited next) :
    Unlimited fun builder =>
      if test builder then change builder else next builder := by
  intro builder limit
  beta_reduce
  by_cases holds : test builder
  · rw [if_pos holds, if_pos ((same builder limit).mpr holds)]
    exact unlimited builder limit
  · rw [if_neg holds, if_neg ((same builder limit).symm ▸ holds)]
    exact otherwise builder limit

/-- A part of a builder is supplied if it is not there yet. -/
theorem Unlimited.supply {part : Builder → Option NodeId}
    (same : Indifferent part)
    (unlimited : Unlimited change) :
    Unlimited fun builder =>
      match part builder with
      | some _ => builder
      | none => change builder := by
  intro builder limit
  beta_reduce
  rw [same]
  cases part builder with
  | some node => rfl
  | none => exact unlimited builder limit

theorem Unlimited.roomy (unlimited : Unlimited change) :
    Roomy fun builder => (none, change builder) := by
  intro builder limit _ _
  beta_reduce
  rw [unlimited builder limit]

theorem Roomy.behind (roomy : Roomy result) (unlimited : Unlimited change) :
    Roomy fun builder => result (change builder) := by
  intro builder limit smaller shallow
  beta_reduce
  rw [unlimited builder limit]
  apply roomy _ limit ?_ shallow
  rw [unlimited.maxDepth]
  exact smaller

theorem Roomy.ite {test : Builder → Prop} [DecidablePred test]
    (same : Indifferent test)
    (roomy : Roomy result) (otherwise : Roomy other) :
    Roomy fun builder =>
      if test builder then result builder else other builder := by
  intro builder limit smaller shallow
  beta_reduce at shallow ⊢
  by_cases holds : test builder
  · rw [if_pos holds] at shallow ⊢
    rw [if_pos ((same builder limit).mpr holds)]
    exact roomy builder limit smaller shallow
  · rw [if_neg holds] at shallow ⊢
    rw [if_neg ((same builder limit).symm ▸ holds)]
    exact otherwise builder limit smaller shallow

theorem Roomy.iteNone {test : Builder → Prop} [DecidablePred test]
    (same : Indifferent test)
    (roomy : Roomy fun builder => (none, change builder))
    (otherwise : Roomy fun builder => (none, next builder)) :
    Roomy fun builder =>
      (none, if test builder then change builder else next builder) := by
  have pushed : (fun builder => ((none : Option TextSwitch),
        if test builder then change builder else next builder)) =
      fun builder =>
        if test builder then (none, change builder)
        else (none, next builder) :=
    funext fun builder => apply_ite (Prod.mk none) _ _ _
  rw [pushed]
  exact roomy.ite same otherwise

/-- What a token says does not depend on the limit. -/
private theorem constant {α : Type} {value : α} : Indifferent fun _ => value :=
  fun _ _ => rfl

/-- What is done behind a change that may open an element. -/
theorem Roomy.ahead (roomy : Roomy result) (unlimited : Unlimited change)
    (keeps : ∀ builder, (change builder).tooDeep = builder.tooDeep) :
    Roomy fun builder => (none, change (result builder).2) := by
  intro builder limit smaller shallow
  beta_reduce at shallow ⊢
  rw [keeps] at shallow
  rw [roomy builder limit smaller shallow, unlimited]

end Combining

/-! ### Changes without a limit -/

private theorem attach_withLimit (builder : Builder) (limit : Nat)
    (parent : NodeId) (data : NodeData) :
    (builder.withLimit limit).attach parent data =
      ((builder.attach parent data).1,
        (builder.attach parent data).2.withLimit limit) := by
  unfold attach withLimit
  dsimp only
  split
  · rfl
  · rfl

private theorem attachUnderHtml_withLimit (builder : Builder) (limit : Nat)
    (name : String) :
    (builder.withLimit limit).attachUnderHtml name =
      ((builder.attachUnderHtml name).1,
        (builder.attachUnderHtml name).2.withLimit limit) := by
  unfold attachUnderHtml
  cases isHtml : builder.html with
  | some html =>
      have same : (builder.withLimit limit).html = some html := isHtml
      rw [same]
      exact attach_withLimit _ _ _ _
  | none =>
      have same : (builder.withLimit limit).html = none := isHtml
      rw [same]
      rfl

private theorem indifferent_html : Indifferent html := fun _ _ => rfl

private theorem indifferent_head : Indifferent head := fun _ _ => rfl

private theorem indifferent_body : Indifferent body := fun _ _ => rfl

private theorem indifferent_current? : Indifferent current? := fun _ _ => rfl

section Parts

variable {part : Builder → Option NodeId}
  (same : Indifferent part)

include same

private theorem unlimited_attachText (text : String) :
    Unlimited fun builder => builder.attachText (part builder) text := by
  intro builder limit
  beta_reduce
  rw [same]
  cases part builder with
  | none => rfl
  | some parent =>
      unfold attachText withLimit
      dsimp only
      split
      · rfl
      · rfl

private theorem unlimited_attachComment (text : String) :
    Unlimited fun builder => builder.attachComment (part builder) text := by
  intro builder limit
  beta_reduce
  rw [same]
  cases part builder with
  | none => rfl
  | some parent => exact congrArg Prod.snd (attach_withLimit _ _ _ _)

private theorem unlimited_mergeAttributes (attributes : TagAttributes) :
    Unlimited fun builder =>
      builder.mergeAttributes (part builder) attributes := by
  intro builder limit
  beta_reduce
  rw [same]
  cases part builder with
  | none => rfl
  | some node =>
      unfold mergeAttributes withLimit
      dsimp only
      split
      · rfl
      · rfl

end Parts

private theorem unlimited_withHtml : Unlimited withHtml := by
  apply Unlimited.supply indifferent_html
  intro builder limit
  beta_reduce
  rw [attach_withLimit]
  rfl

private theorem unlimited_withHead : Unlimited withHead := by
  apply Unlimited.supply indifferent_head
  intro builder limit
  beta_reduce
  rw [attachUnderHtml_withLimit]
  rfl

theorem unlimited_withBody : Unlimited withBody := by
  apply Unlimited.supply indifferent_body
  intro builder limit
  beta_reduce
  rw [attachUnderHtml_withLimit]
  rfl

private theorem unlimited_id : Unlimited fun builder => builder :=
  fun _ _ => rfl

theorem unlimited_startHtml (attributes : TagAttributes) :
    Unlimited fun builder => builder.startHtml attributes := by
  have merged := unlimited_withHtml.trans
    (unlimited_mergeAttributes indifferent_html attributes)
  have ends : Unlimited fun builder =>
      { builder with mode := .beforeHead } := fun _ _ => rfl
  exact merged.trans ends

theorem unlimited_startHead (attributes : TagAttributes) :
    Unlimited fun builder => builder.startHead attributes := by
  have started : Unlimited fun builder =>
      if builder.html.isNone then builder.startHtml [] else builder :=
    .ite (fun _ _ => rfl) (unlimited_startHtml []) unlimited_id
  have merged := (started.trans unlimited_withHead).trans
    (unlimited_mergeAttributes indifferent_head attributes)
  have ends : Unlimited fun builder =>
      { builder with openNodes := builder.head.toList, mode := .inHead } :=
    fun _ _ => rfl
  exact merged.trans ends

theorem unlimited_startBody (attributes : TagAttributes) :
    Unlimited fun builder => builder.startBody attributes := by
  have started : Unlimited fun builder =>
      if builder.head.isNone then builder.startHead [] else builder :=
    .ite (fun _ _ => rfl) (unlimited_startHead []) unlimited_id
  have merged := (started.trans unlimited_withBody).trans
    (unlimited_mergeAttributes indifferent_body attributes)
  have ends : Unlimited fun builder =>
      if builder.mode = .inBody then builder
      else
        { builder with openNodes := builder.body.toList, mode := .inBody } :=
    .ite (fun _ _ => rfl) unlimited_id fun _ _ => rfl
  exact merged.trans ends

private theorem unlimited_closeCurrent (names : List String) :
    Unlimited fun builder => builder.closeCurrent names := by
  intro builder limit
  unfold closeCurrent withLimit
  dsimp only
  split
  · split
    · rfl
    · rfl
  · rfl

private theorem unlimited_closeImplied (name : String) :
    Unlimited fun builder => builder.closeImplied name := by
  have closeNamed : ∀ name boundaries,
      Unlimited fun builder => builder.closeNamed name boundaries :=
    fun _ _ _ _ => rfl
  have closeItem : ∀ names,
      Unlimited fun builder => builder.closeItem names := fun _ _ _ => rfl
  have closeParagraph : Unlimited fun builder => builder.closeParagraph :=
    fun _ _ => rfl
  have first : Unlimited fun builder =>
      if name = "a" then builder.closeNamed "a" anchorBoundaries
      else if name = "li" then builder.closeItem ["li"]
      else if name = "dd" || name = "dt" then builder.closeItem ["dd", "dt"]
      else if name = "option" then builder.closeCurrent ["option"]
      else if name = "optgroup" then
        builder.closeCurrent ["option", "optgroup"]
      else if isHeading name then
        builder.closeParagraph.closeCurrent ["h1", "h2", "h3", "h4", "h5", "h6"]
      else builder := by
    apply Unlimited.ite constant (closeNamed _ _)
    apply Unlimited.ite constant (closeItem _)
    apply Unlimited.ite constant (closeItem _)
    apply Unlimited.ite constant (unlimited_closeCurrent _)
    apply Unlimited.ite constant (unlimited_closeCurrent _)
    exact .ite constant (closeParagraph.trans (unlimited_closeCurrent _))
      unlimited_id
  have second : Unlimited fun builder =>
      if closesParagraph name then builder.closeParagraph else builder :=
    .ite constant closeParagraph unlimited_id
  exact first.trans second

/-! ### Opening elements -/

private theorem openNode_withLimit (builder : Builder) (node : NodeId)
    {limit : Nat} (smaller : builder.maxDepth ≤ limit)
    (shallow : (builder.openNode node).2.tooDeep = false) :
    (builder.withLimit limit).openNode node =
      ((builder.openNode node).1,
        (builder.openNode node).2.withLimit limit) := by
  by_cases full : builder.openNodes.length ≥ builder.maxDepth
  · rw [openNode, if_pos full] at shallow
    contradiction
  · have short : builder.openNodes.length < builder.maxDepth :=
      Nat.lt_of_not_le full
    have larger : (builder.withLimit limit).openNodes.length <
        (builder.withLimit limit).maxDepth := Nat.lt_of_lt_of_le short smaller
    rw [openNode_eq short, openNode_eq larger]
    rfl

private theorem maxDepth_attach (builder : Builder) (parent : NodeId)
    (data : NodeData) :
    (builder.attach parent data).2.maxDepth = builder.maxDepth := by
  obtain ⟨_, same⟩ := builder.attach_snd parent data
  rw [same]

private theorem roomy_insertHtml {part : Builder → Option NodeId}
    (same : Indifferent part)
    (name : String) (attributes : TagAttributes) :
    Roomy fun builder => builder.insertHtml (part builder) name attributes := by
  intro builder limit smaller shallow
  beta_reduce at shallow ⊢
  rw [same]
  cases isPart : part builder with
  | none => rfl
  | some parent =>
      rw [isPart] at shallow
      unfold insertHtml at shallow ⊢
      dsimp only at shallow ⊢
      rw [attach_withLimit]
      split
      next => rfl
      next notVoid =>
        rw [if_neg notVoid] at shallow
        rw [openNode_withLimit _ _ (by rw [maxDepth_attach]; exact smaller)
          shallow]

private theorem roomy_insertForeign {ns : Builder → Namespace}
    (same : Indifferent ns)
    (name : String) (attributes : TagAttributes) (selfClosing : Bool) :
    Roomy fun builder =>
      (none, builder.insertForeign name attributes (ns builder) selfClosing) := by
  intro builder limit smaller shallow
  beta_reduce at shallow ⊢
  have parent : (builder.withLimit limit).current? = builder.current? := rfl
  unfold insertForeign at shallow ⊢
  dsimp only at shallow ⊢
  rw [same, parent, attach_withLimit]
  split
  next => rfl
  next notClosed =>
    rw [if_neg notClosed] at shallow
    rw [openNode_withLimit _ _ (by rw [maxDepth_attach]; exact smaller)
      shallow]

/-! ### Tokens -/

private theorem roomy_none : Roomy fun builder => (none, builder) :=
  unlimited_id.roomy

private theorem roomy_merge {part : Builder → Option NodeId}
    (same : Indifferent part)
    (attributes : TagAttributes) :
    Roomy fun builder =>
      (none, builder.mergeAttributes (part builder) attributes) :=
  (unlimited_mergeAttributes same attributes).roomy

private theorem roomy_htmlStartTag (name : String)
    (attributes : TagAttributes) (selfClosing : Bool) :
    Roomy fun builder =>
      builder.htmlStartTag name attributes selfClosing := by
  have whole : ∀ {change : Builder → Builder}, Unlimited change →
      Roomy fun builder =>
        (none, if builder.fragment then builder else change builder) :=
    fun unlimited =>
      (Unlimited.ite (fun _ _ => rfl) unlimited_id unlimited).roomy
  have inserted := (roomy_insertHtml indifferent_current? name attributes).behind
    (unlimited_closeImplied name)
  unfold htmlStartTag
  apply Roomy.ite constant
  · exact whole (unlimited_mergeAttributes indifferent_html attributes)
  apply Roomy.ite constant
  · exact whole (unlimited_mergeAttributes indifferent_body attributes)
  apply Roomy.ite constant roomy_none
  apply Roomy.ite constant
  · exact roomy_insertForeign constant name attributes selfClosing
  apply Roomy.ite constant
  · exact roomy_insertForeign constant name attributes selfClosing
  exact inserted

private theorem roomy_bodyStartTag (name : String)
    (attributes : TagAttributes) (selfClosing : Bool) :
    Roomy fun builder =>
      builder.bodyStartTag name attributes selfClosing := by
  have left : Unlimited fun builder =>
      { builder with
        openNodes := leaveForeign builder.document builder.openNodes } :=
    fun _ _ => rfl
  have isHtml := roomy_htmlStartTag name attributes selfClosing
  have isForeign : Roomy fun builder =>
      (none, builder.insertForeign name attributes
        ((builder.currentElement?.map Element.ns).getD .html)
        selfClosing) :=
    roomy_insertForeign (fun _ _ => rfl) name attributes selfClosing
  unfold bodyStartTag
  apply Roomy.ite (fun _ _ => rfl) ?_ isHtml
  exact .ite constant (isHtml.behind left) isForeign

private theorem roomy_bodyEndTag (name : String) :
    Roomy fun builder => (none, builder.bodyEndTag name) := by
  have lineBreak := (roomy_insertHtml indifferent_current? "br" []).ahead unlimited_id
    fun _ => rfl
  have paragraph := (roomy_insertHtml indifferent_current? "p" []).ahead
    (unlimited_closeCurrent ["p"]) (by
      intro builder
      unfold closeCurrent
      split
      · split
        · rfl
        · rfl
      · rfl)
  unfold bodyEndTag
  apply Roomy.iteNone constant roomy_none
  apply Roomy.iteNone constant lineBreak
  apply Roomy.iteNone (fun _ _ => rfl) paragraph
  intro builder limit _ _
  have same : (builder.withLimit limit).closing? name [] =
      builder.closing? name [] := rfl
  beta_reduce
  rw [same]
  cases builder.closing? name [] with
  | some remaining => rfl
  | none => rfl

private theorem roomy_inBody (token : Token) :
    Roomy fun builder => builder.inBody token := by
  cases token with
  | text text =>
      exact (unlimited_attachText indifferent_current? text).roomy
  | comment text =>
      exact (unlimited_attachComment indifferent_current? text).roomy
  | doctype name => exact roomy_none
  | startTag name attributes selfClosing =>
      exact roomy_bodyStartTag name attributes selfClosing
  | endTag name => exact roomy_bodyEndTag name

private theorem roomy_afterHead (token : Token) :
    Roomy fun builder => builder.afterHead token := by
  have supplied := (roomy_inBody token).behind (unlimited_startBody [])
  cases token with
  | text text =>
      exact .ite constant (unlimited_attachText indifferent_html text).roomy
        supplied
  | comment text =>
      exact (unlimited_attachComment indifferent_html text).roomy
  | doctype name => exact roomy_none
  | startTag name attributes selfClosing =>
      have reentered : Unlimited fun builder =>
          { builder with openNodes := builder.head.toList, mode := .inHead } :=
        fun _ _ => rfl
      have merged := roomy_merge indifferent_html attributes
      have inserted := (roomy_insertHtml indifferent_head name attributes).behind
          reentered
      unfold afterHead
      apply Roomy.ite constant merged
      apply Roomy.ite constant (unlimited_startBody attributes).roomy
      exact .ite constant inserted supplied
  | endTag name => exact roomy_none

private theorem roomy_inHead (token : Token) :
    Roomy fun builder => builder.inHead token := by
  have left : Unlimited fun builder =>
      { builder with openNodes := [], mode := .afterHead } := fun _ _ => rfl
  have leave := (roomy_afterHead token).behind left
  cases token with
  | text text =>
      unfold inHead
      apply Roomy.ite (fun _ _ => rfl)
      · exact (unlimited_attachText indifferent_current? text).roomy
      apply Roomy.ite constant
      · exact (unlimited_attachText indifferent_head text).roomy
      exact leave
  | comment text =>
      exact (unlimited_attachComment indifferent_head text).roomy
  | doctype name => exact roomy_none
  | startTag name attributes selfClosing =>
      unfold inHead
      apply Roomy.ite constant
      · exact roomy_insertHtml indifferent_head name attributes
      apply Roomy.ite constant
      · exact roomy_merge indifferent_html attributes
      exact .ite constant roomy_none leave
  | endTag name =>
      have ended : Unlimited fun builder =>
          { builder with mode := .afterHead } := fun _ _ => rfl
      have closed : Unlimited fun builder =>
          { builder with openNodes := builder.openNodes.tail } :=
        fun _ _ => rfl
      unfold inHead
      apply Roomy.ite constant ended.roomy
      apply Roomy.ite constant ?_ leave
      exact .iteNone (fun _ _ => rfl) closed.roomy roomy_none

private theorem roomy_beforeHead (token : Token) :
    Roomy fun builder => builder.beforeHead token := by
  have supplied := (roomy_inHead token).behind (unlimited_startHead [])
  cases token with
  | text text => exact .ite constant roomy_none supplied
  | comment text =>
      exact (unlimited_attachComment indifferent_html text).roomy
  | doctype name => exact roomy_none
  | startTag name attributes selfClosing =>
      unfold beforeHead
      apply Roomy.ite constant
      · exact roomy_merge indifferent_html attributes
      exact .ite constant (unlimited_startHead attributes).roomy supplied
  | endTag name => exact supplied

private theorem roomy_beforeHtml (token : Token) :
    Roomy fun builder => builder.beforeHtml token := by
  have supplied := (roomy_beforeHead token).behind (unlimited_startHtml [])
  cases token with
  | text text => exact .ite constant roomy_none supplied
  | comment text =>
      exact (unlimited_attachComment constant text).roomy
  | doctype name =>
      intro builder limit _ _
      exact congrArg (fun pair => (none, pair.2)) (attach_withLimit _ _ _ _)
  | startTag name attributes selfClosing =>
      exact .ite constant (unlimited_startHtml attributes).roomy supplied
  | endTag name => exact supplied

variable {builder : Builder} {limit : Nat}

/-- A token has the same effect under a larger limit. -/
theorem step_withLimit (smaller : builder.maxDepth ≤ limit) {token : Token}
    (shallow : (builder.step token).2.tooDeep = false) :
    (builder.withLimit limit).step token =
      ((builder.step token).1, (builder.step token).2.withLimit limit) := by
  have sameMode : (builder.withLimit limit).mode = builder.mode := rfl
  unfold step at shallow ⊢
  rw [sameMode]
  cases mode : builder.mode with
  | beforeHtml =>
      simp only [mode] at shallow
      exact roomy_beforeHtml token builder limit smaller shallow
  | beforeHead =>
      simp only [mode] at shallow
      exact roomy_beforeHead token builder limit smaller shallow
  | inHead =>
      simp only [mode] at shallow
      exact roomy_inHead token builder limit smaller shallow
  | afterHead =>
      simp only [mode] at shallow
      exact roomy_afterHead token builder limit smaller shallow
  | inBody =>
      simp only [mode] at shallow
      exact roomy_inBody token builder limit smaller shallow

/-! ### Whole markups -/

private theorem tooDeep_attach (builder : Builder) (parent : NodeId)
    (data : NodeData) :
    (builder.attach parent data).2.tooDeep = builder.tooDeep := by
  obtain ⟨_, same⟩ := builder.attach_snd parent data
  rw [same]

private theorem tooDeep_attachText (builder : Builder) (parent : NodeId)
    (text : String) :
    (builder.attachText (some parent) text).tooDeep = builder.tooDeep := by
  obtain ⟨_, same⟩ := builder.attachText_eq parent text
  rw [same]

private theorem tooDeep_supply {after : Builder} (supply : Supply builder after) :
    after.tooDeep = builder.tooDeep := by
  cases supply with
  | @merge node attributes _ _ _ =>
      rcases builder.mergeAttributes_eq node attributes with
        same | ⟨_, _, same⟩
      · rw [same]
      · rw [same]
  | enterHtml _ => exact tooDeep_attach _ _ _
  | enterHead _ _ => exact tooDeep_attach _ _ _
  | enterBody _ _ => exact tooDeep_attach _ _ _

/-- A limit that has been reached stays so. -/
theorem lasting_tooDeep : Lasting fun builder => builder.tooDeep = true where
  shift := by
    intro before after shift tooDeep
    cases shift with
    | supply supply => exact (tooDeep_supply supply).trans tooDeep
    | close _ _ => exact tooDeep
    | stray _ => exact tooDeep
    | doctype _ _ => exact (tooDeep_attach _ _ _).trans tooDeep
    | comment _ _ => exact (tooDeep_attach _ _ _).trans tooDeep
    | text _ _ => exact (tooDeep_attachText _ _ _).trans tooDeep
    | space _ _ _ => exact (tooDeep_attachText _ _ _).trans tooDeep
    | leaf _ _ => exact (tooDeep_attach _ _ _).trans tooDeep
    | flatten _ _ _ => rfl
    | closeInHead _ _ _ => exact tooDeep
    | leaveHead _ _ => exact tooDeep
    | reenterHead _ _ => exact tooDeep
  opening := by
    intro before switch after opening tooDeep
    cases opening with
    | opened _ _ _ => exact (tooDeep_attach _ _ _).trans tooDeep

private theorem shallow_of_shifts {after : Builder}
    (shifts : Shifts builder after) (shallow : after.tooDeep = false) :
    builder.tooDeep = false := by
  cases reached : builder.tooDeep with
  | false => rfl
  | true =>
      rw [lasting_tooDeep.shifts shifts reached] at shallow
      contradiction

private theorem shallow_of_consume (situated : Situated builder) {lexer : Lexer}
    (shallow : (builder.consume lexer).tooDeep = false) :
    builder.tooDeep = false := by
  cases reached : builder.tooDeep with
  | false => rfl
  | true =>
      rw [(lasting_tooDeep.consume situated reached lexer).2] at shallow
      contradiction

theorem consume_withLimit (situated : Situated builder)
    (smaller : builder.maxDepth ≤ limit) (lexer : Lexer)
    (shallow : (builder.consume lexer).tooDeep = false) :
    (builder.withLimit limit).consume lexer =
      (builder.consume lexer).withLimit limit := by
  generalize length : lexer.rest.length = remaining
  induction remaining using Nat.strong_induction_on
    generalizing builder lexer with
  | _ remaining induction =>
      rw [consume_eq] at shallow ⊢
      rw [consume_eq builder lexer]
      cases read : lexer.next with
      | mk next after =>
          cases next with
          | none => rfl
          | some token =>
              have shorter := Lexer.next_length read
              have effect := effect_step situated (Lexer.isToken_next read)
              have later := lasting_situated.effect effect situated
              simp only [read] at shallow
              have stepShallow : (builder.step token).2.tooDeep = false := by
                split at shallow
                · exact shallow
                · exact shallow_of_consume later shallow
              have stepped := step_withLimit smaller stepShallow
              have sameStop :
                  ((builder.step token).2.withLimit limit).isStopped =
                    (builder.step token).2.isStopped := rfl
              have sameLimit : (builder.step token).2.maxDepth =
                  builder.maxDepth := by
                have self := step_withLimit (Nat.le_refl builder.maxDepth)
                  stepShallow
                exact congrArg (fun result => result.2.maxDepth) self
              simp only [stepped, sameStop]
              split
              · rfl
              next goesOn =>
                rw [if_neg goesOn] at shallow
                exact induction after.rest.length (by omega) later
                  (sameLimit ▸ smaller) _ shallow rfl

theorem run_withLimit (situated : Situated builder)
    (smaller : builder.maxDepth ≤ limit) {markup : String}
    (shallow : (builder.run markup).tooDeep = false) :
    (builder.withLimit limit).run markup =
      (builder.run markup).withLimit limit := by
  have sameKind : (builder.withLimit limit).fragment = builder.fragment := rfl
  have sameElement : (builder.withLimit limit).currentElement? =
      builder.currentElement? := rfl
  unfold Builder.run at shallow ⊢
  rw [sameKind, sameElement]
  split
  next fragment =>
    rw [if_pos fragment] at shallow
    exact consume_withLimit situated smaller _ shallow
  next whole =>
    rw [if_neg whole] at shallow
    have still := (lasting_fragment false).consume situated
      (Bool.eq_false_iff.mpr whole) (Lexer.ofMarkup markup)
    have supplies :=
      supplies_startBody still.1 areTagAttributes_nil still.2
    dsimp only at shallow ⊢
    have consumed : (builder.consume (Lexer.ofMarkup markup)).tooDeep =
        false := by
      split at shallow
      · exact shallow
      · exact shallow_of_shifts supplies.shifts shallow
    have sameStop : ((builder.consume
        (Lexer.ofMarkup markup)).withLimit limit).isStopped =
          (builder.consume (Lexer.ofMarkup markup)).isStopped := rfl
    rw [consume_withLimit situated smaller _ consumed, sameStop]
    split
    · rfl
    · exact unlimited_startBody [] _ _

theorem fault?_withLimit (shallow : builder.tooDeep = false) :
    (builder.withLimit limit).fault? = builder.fault? := by
  have sameRefusal : (builder.withLimit limit).refusal = builder.refusal := rfl
  have sameStop : (builder.withLimit limit).isStopped = builder.isStopped := rfl
  unfold fault?
  rw [sameRefusal, sameStop]
  cases refusal : builder.refusal with
  | some refusal => rfl
  | none =>
      have goesOn : builder.isStopped = false := by
        rw [isStopped, refusal, shallow]
        rfl
      rw [goesOn]
      rfl

end Builder

namespace HtmlParser

open Builder

variable {parser larger : HtmlParser} {markup : String} {document : Document}

/-- A document that is accepted under one limit is the same under any larger
one. -/
theorem parseDocument_of_larger
    (more : parser.maxDepth ≤ larger.maxDepth)
    (parsed : (parser.parseDocument markup).value = .ok document) :
    larger.parseDocument markup = parser.parseDocument markup := by
  have situated := situated_forDocument parser.maxDepth
  have whole := (lasting_fragment false).run situated rfl markup
  have shallow : ((forDocument parser.maxDepth).run markup).tooDeep =
      false := by
    have goesOn := (eq_run_of_parseDocument parsed).2
    rw [isStopped, whole, Bool.or_eq_false_iff, Bool.not_false,
      Bool.and_true] at goesOn
    exact goesOn.2
  have same : (forDocument larger.maxDepth).run markup =
      ((forDocument parser.maxDepth).run markup).withLimit larger.maxDepth :=
    run_withLimit situated more shallow
  unfold parseDocument
  rw [same]
  simp only [fault?_withLimit shallow]
  rfl

/-- A fragment whose elements could all be opened under one limit is the same
under any larger one. -/
theorem parseFragment_of_larger
    (more : parser.maxDepth ≤ larger.maxDepth) {context : NodeId}
    (shallow : ((forFragment document context parser.maxDepth).run
      markup).tooDeep = false) :
    larger.parseFragment markup document context =
      parser.parseFragment markup document context := by
  have same : (forFragment document context larger.maxDepth).run markup =
      ((forFragment document context parser.maxDepth).run markup).withLimit
        larger.maxDepth :=
    run_withLimit (situated_forFragment document context parser.maxDepth) more
      shallow
  unfold parseFragment
  split
  · rfl
  · rw [same]
    simp only [fault?_withLimit shallow]
    rfl

-- Behind a script that stays closed the markup is read as content.
example :
    (({ maxDepth := 1 } : HtmlParser).parseFragment "<script><b></script>"
      .shell 3).value.2.textContent 3 = "" := by
  decide +kernel

example :
    (({ maxDepth := 2 } : HtmlParser).parseFragment "<script><b></script>"
      .shell 3).value.2.textContent 3 = "<b>" := by
  decide +kernel

/-- No limit is reached by a markup that is shorter. -/
private theorem tooDeep_run_of_shorter (parsed : IsParsed document)
    (rooted : document.data? Document.root = some .document)
    {context : NodeId} {element : Element}
    (present : document.element? context = some element)
    (ordinary : isTextOnly element = false)
    (shorter : markup.length + 1 < parser.maxDepth) :
    ((forFragment document context parser.maxDepth).run markup).tooDeep =
      false := by
  have sound := (steady_forFragment parsed.wellFormed rooted parsed.stands
    present ordinary parser.maxDepth).run
      (situated_forFragment document context parser.maxDepth) markup
  by_contra reached
  rw [Bool.not_eq_false] at reached
  have small := sound.shallow reached
  omega

/-- All limits that are larger than the markup is long give the same fragment. -/
theorem parseFragment_of_shorter (parsed : IsParsed document)
    (rooted : document.data? Document.root = some .document)
    {context : NodeId} {element : Element}
    (present : document.element? context = some element)
    (ordinary : isTextOnly element = false)
    (shorter : markup.length + 1 < parser.maxDepth)
    (more : parser.maxDepth ≤ larger.maxDepth) :
    larger.parseFragment markup document context =
      parser.parseFragment markup document context :=
  parseFragment_of_larger more
    (tooDeep_run_of_shorter parsed rooted present ordinary shorter)

end HtmlParser

end MarkupHarden.Html
