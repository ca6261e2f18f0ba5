import MarkupHarden.Proofs.Html.Effects

/-!
# What one token adds to the body

Inside the body a token closes some of the innermost open elements and then adds
one node at most, as a child of the innermost element that is still open.
`BodyStep` says so for each kind of token, and `bodyStep_step` that nothing else
happens.
-/

namespace MarkupHarden.Html

open Dom (Document Element NodeData NodeId)

/-- The elements that a tag can stand for: the end tags of `br` and `p` can
stand for an element, too. -/
def Denotes : Token → Element → Prop
  | .startTag name attributes _, element =>
      ∃ ns, element = elementOf ns name attributes
  | .endTag name, element =>
      (name = "br" ∨ name = "p") ∧ element = elementOf .html name []
  | .doctype _, _ | .text _, _ | .comment _, _ => False

/-- Whether a token may add nothing at all to the body. -/
def isIdle : Token → Bool
  | .doctype _ | .endTag _ => true
  | .startTag name _ _ => ["html", "head", "body", "frameset"].contains name
  | .text _ | .comment _ => false

namespace Builder

variable {builder before after : Builder} {parent : NodeId}

/-- An element becomes the last child of `parent`, and may be opened. -/
inductive Plants (before : Builder) (parent : NodeId) (element : Element) :
    Builder → Prop where
  | closed (tooDeep : Bool) :
      Plants before parent element
        { (before.attach parent (.element element)).2 with tooDeep }
  | opened :
      before.openNodes.length < before.maxDepth →
      Plants before parent element
        { (before.attach parent (.element element)).2 with
          openNodes :=
            (before.attach parent (.element element)).1 :: before.openNodes }

/-- What a token does inside the body. -/
inductive BodyStep (before : Builder) : Token → Builder → Prop where
  | text {parent : NodeId} (text : String) :
      before.current? = some parent →
      BodyStep before (.text text) (before.attachText (some parent) text)
  | comment {parent : NodeId} (text : String) :
      before.current? = some parent →
      BodyStep before (.comment text) (before.attach parent (.comment text)).2
  /-- A tag adds an element. -/
  | element {token : Token} {narrowed planted after : Builder}
      {parent : NodeId} {element : Element} :
      Narrows before narrowed → narrowed.current? = some parent →
      Denotes token element → Plants narrowed parent element planted →
      Narrows planted after → BodyStep before token after
  | idle {token : Token} {after : Builder} :
      isIdle token = true → Narrows before after → BodyStep before token after
  | stray (name : String) :
      BodyStep before (.endTag name)
        { before with strayEndTags := before.strayEndTags ++ [name] }
  /-- In a document, tags of the outer elements can add attributes. -/
  | merge {token : Token} {narrowed : Builder} {target : Option NodeId}
      {attributes : TagAttributes} :
      isIdle token = true → Narrows before narrowed →
      narrowed.fragment = false →
      (target = narrowed.html ∨ target = narrowed.body) →
      BodyStep before token (narrowed.mergeAttributes target attributes)

theorem Plants.mode_eq {element : Element}
    (plants : Plants before parent element after) :
    after.mode = before.mode := by
  obtain ⟨_, same⟩ := before.attach_snd parent (.element element)
  cases plants with
  | closed tooDeep => rw [same]
  | opened short => rw [same]

/-- No token leads out of the body. -/
theorem BodyStep.mode_eq {token : Token} (step : BodyStep before token after) :
    after.mode = before.mode := by
  cases step with
  | @text parent text _ =>
      obtain ⟨_, same⟩ := before.attachText_eq parent text
      rw [same]
  | @comment parent text _ =>
      obtain ⟨_, same⟩ := before.attach_snd parent (.comment text)
      rw [same]
  | element narrows _ _ plants closes =>
      rw [closes.mode_eq, plants.mode_eq, narrows.mode_eq]
  | idle _ narrows => exact narrows.mode_eq
  | stray name => rfl
  | merge _ narrows _ _ => rw [mode_mergeAttributes, narrows.mode_eq]

/-! ### Adding elements -/

private theorem plants_openNode (builder : Builder) (parent : NodeId)
    (element : Element) :
    Plants builder parent element
      ((builder.attach parent (.element element)).2.openNode
        (builder.attach parent (.element element)).1).2 := by
  obtain ⟨_, same⟩ := builder.attach_snd parent (.element element)
  have nodes : (builder.attach parent (.element element)).2.openNodes =
      builder.openNodes := by rw [same]
  have limit : (builder.attach parent (.element element)).2.maxDepth =
      builder.maxDepth := by rw [same]
  unfold openNode
  split
  · exact .closed true
  next short =>
    rw [nodes]
    exact .opened (Nat.lt_of_not_le (nodes ▸ limit ▸ short))

theorem plants_insertHtml (builder : Builder) (parent : NodeId)
    (name : String) (attributes : TagAttributes) :
    Plants builder parent (elementOf .html name attributes)
      (builder.insertHtml (some parent) name attributes).2 := by
  unfold insertHtml
  simp only [← elementOf_html]
  split
  · exact .closed _
  · exact plants_openNode builder parent _

private theorem plants_insertForeign
    (current : builder.current? = some parent) (ns : Dom.Namespace)
    (name : String) (attributes : TagAttributes) (selfClosing : Bool) :
    Plants builder parent (elementOf ns name attributes)
      (builder.insertForeign name attributes ns selfClosing) := by
  unfold insertForeign elementOf
  rw [current, Option.getD_some]
  dsimp only
  split
  · exact .closed _
  · exact plants_openNode builder parent _

theorem exists_current? (isOpen : builder.openNodes ≠ []) :
    ∃ node, builder.current? = some node := by
  obtain ⟨node, rest, nodes⟩ := List.exists_cons_of_ne_nil isOpen
  exact ⟨node, by rw [current?, nodes]; rfl⟩

/-! ### Tags -/

private theorem bodyStep_htmlStartTag {narrowed : Builder}
    (narrows : Narrows builder narrowed) (isOpen : builder.openNodes ≠ [])
    (name : String) (attributes : TagAttributes) (selfClosing : Bool) :
    BodyStep builder (.startTag name attributes selfClosing)
      (narrowed.htmlStartTag name attributes selfClosing).2 := by
  have stillOpen := narrows.isOpen isOpen
  have foreign (ns : Dom.Namespace) :
      BodyStep builder (.startTag name attributes selfClosing)
        (narrowed.insertForeign name attributes ns selfClosing) := by
    obtain ⟨parent, current⟩ := exists_current? stillOpen
    exact .element narrows current ⟨ns, rfl⟩
      (plants_insertForeign current ns name attributes selfClosing) (.refl _)
  unfold htmlStartTag
  split
  next isHtml =>
    have idle : isIdle (.startTag name attributes selfClosing) = true := by
      simp [isIdle, isHtml]
    dsimp only
    split
    · exact .idle idle narrows
    next whole => exact .merge idle narrows (by simpa using whole) (.inl rfl)
  split
  next isBody =>
    have idle : isIdle (.startTag name attributes selfClosing) = true := by
      simp [isIdle, isBody]
    dsimp only
    split
    · exact .idle idle narrows
    next whole => exact .merge idle narrows (by simpa using whole) (.inr rfl)
  split
  next isOuter =>
    refine .idle ?_ narrows
    rcases Bool.or_eq_true _ _ ▸ isOuter with isHead | isFrameset
    · simp [isIdle, of_decide_eq_true isHead]
    · simp [isIdle, of_decide_eq_true isFrameset]
  split
  · exact foreign .svg
  split
  · exact foreign .mathml
  · have implied := narrows.trans (narrows_closeImplied narrowed name)
    obtain ⟨parent, current⟩ := exists_current? (implied.isOpen isOpen)
    dsimp only
    rw [current]
    exact .element implied current ⟨.html, rfl⟩
      (plants_insertHtml _ parent name attributes) (.refl _)

private theorem bodyStep_bodyStartTag (isOpen : builder.openNodes ≠ [])
    (name : String) (attributes : TagAttributes) (selfClosing : Bool) :
    BodyStep builder (.startTag name attributes selfClosing)
      (builder.bodyStartTag name attributes selfClosing).2 := by
  unfold bodyStartTag
  split
  · split
    · exact bodyStep_htmlStartTag (narrows_leaveForeign builder) isOpen name
        attributes selfClosing
    · obtain ⟨parent, current⟩ := exists_current? isOpen
      exact .element (.refl builder) current ⟨_, rfl⟩
        (plants_insertForeign current _ name attributes selfClosing) (.refl _)
  · exact bodyStep_htmlStartTag (.refl builder) isOpen name attributes
      selfClosing

private theorem bodyStep_bodyEndTag (isOpen : builder.openNodes ≠ [])
    (name : String) :
    BodyStep builder (.endTag name) (builder.bodyEndTag name) := by
  obtain ⟨parent, current⟩ := exists_current? isOpen
  unfold bodyEndTag
  split
  · exact .idle rfl (.refl builder)
  split
  next isBreak =>
    subst isBreak
    rw [current]
    exact .element (.refl builder) current ⟨.inl rfl, rfl⟩
      (plants_insertHtml builder parent "br" []) (.refl _)
  split
  next unmatched =>
    obtain ⟨isParagraph, _⟩ := Bool.and_eq_true _ _ ▸ unmatched
    cases of_decide_eq_true isParagraph
    rw [current]
    exact .element (.refl builder) current ⟨.inr rfl, rfl⟩
      (plants_insertHtml builder parent "p" []) (narrows_closeCurrent _ _)
  split
  next remaining found =>
    obtain ⟨within, notEmpty⟩ := closeTarget?_suffix found
    exact .idle rfl ⟨remaining, within, .inr notEmpty, rfl⟩
  · exact .stray name

/-- Every token is a step inside the body. -/
theorem bodyStep_step (mode : builder.mode = .inBody)
    (isOpen : builder.openNodes ≠ []) (token : Token) :
    BodyStep builder token (builder.step token).2 := by
  have stepped : builder.step token = builder.inBody token := by
    rw [step, mode]
  obtain ⟨parent, current⟩ := exists_current? isOpen
  rw [stepped]
  cases token with
  | doctype name => exact .idle rfl (.refl builder)
  | startTag name attributes selfClosing =>
      exact bodyStep_bodyStartTag isOpen name attributes selfClosing
  | endTag name => exact bodyStep_bodyEndTag isOpen name
  | text text =>
      rw [inBody, current]
      exact .text text current
  | comment text =>
      rw [inBody, current]
      exact .comment text current

end Builder

end MarkupHarden.Html
