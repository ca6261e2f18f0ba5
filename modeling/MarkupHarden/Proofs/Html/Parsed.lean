import MarkupHarden.Html.Parser
import MarkupHarden.Proofs.Html.OpenElements
import MarkupHarden.Proofs.Html.Stepping

/-!
# Parsed documents

When a token has opened a text-only element, the lexer next yields the text of
that element, if there is any, and then its end tag or nothing at all.  So
building is sound from the first token to the last, and what comes out of the
bundled parser is a well-formed document in which every node stands.
-/

namespace MarkupHarden.Html

open Dom (Document Element NodeData NodeId)

namespace Builder

variable {limit size : Nat} {builder : Builder}

/-! ### Content of text-only elements -/

namespace Absorbing

variable {switch : TextSwitch} {node : NodeId} {rest : List NodeId}
  {element : Element}

private theorem facts (absorbing : Absorbing limit size switch builder node rest element) :
    element.ns = .html ∧ switch.tag = element.localName ∧
      IsTagName element.localName ∧
        Text.lower element.localName = element.localName ∧
          element.localName ∉ ["html", "head", "body", "br", "p"] := by
  obtain ⟨html, tag, mode⟩ := textSwitch?_eq_some_iff.mp absorbing.isSwitch
  have payload := Document.element?_eq_some_iff.mp absorbing.present
  have belongs : Belongs (parentElement? builder.document node) element :=
    (absorbing.sound.stands node).fits payload (by simp)
  have lower := belongs.spelled.name
  rw [html] at lower
  refine ⟨html, tag, belongs.spelled.safe.name, lower, ?_⟩
  intro member
  generalize element.localName = name at mode member
  simp only [List.mem_cons, List.not_mem_nil, or_false] at member
  rcases member with rfl | rfl | rfl | rfl | rfl <;> contradiction

private theorem attachText
    (absorbing : Absorbing limit size switch builder node rest element)
    (empty : builder.document.children node = []) {text : String}
    (raw : switch.mode = .verbatim →
      ¬HoldsEndTag switch.tag.toList text.toList) :
    Absorbing limit size switch (builder.attachText (some node) text) node rest
      element := by
  have sound := absorbing.sound
  have isParent : IsParent builder.document node :=
    Or.inr ⟨element, absorbing.present⟩
  have inside := sound.lt_of_isParent isParent
  have fits : FitsBelow (builder.document.element? node) (.text text) := trivial
  have holds : ∀ other, builder.document.element? node = some other →
      HoldsTextAt (builder.document.grown node (.text text)) node other := by
    intro other present
    rw [absorbing.present] at present
    cases present
    intro found isFound
    rw [absorbing.isSwitch] at isFound
    cases isFound
    refine Or.inr ⟨builder.document.nodeCount, text, ?_, ?_, ?_⟩
    · rw [Document.children_grown inside, if_pos rfl, empty, List.nil_append]
    · rw [Document.data?_grown inside, if_pos rfl]
    · rw [← absorbing.facts.2.1]
      exact raw
  rcases sound.attachText_cases isParent text with
    same | ⟨_, _, same⟩ | ⟨last, old, _, found, _⟩
  · rw [same]
    exact absorbing
  · rw [same]
    refine ⟨(sound.attach isParent fits holds).2, absorbing.openNodes, ?_,
      absorbing.isSwitch, ?_, absorbing.closable⟩
    · rw [Document.element?_grown_of_lt inside inside]
      exact absorbing.present
    · refine absorbing.calm.follow ?_ (follows_grown inside _)
      intro other member
      apply sound.opened other
      rw [absorbing.openNodes]
      exact List.mem_cons_of_mem _ member
  · have isLast := (Document.lastText?_eq_some_iff.mp found).1
    rw [Document.lastChild?, empty] at isLast
    contradiction

private theorem current?_eq
    (absorbing : Absorbing limit size switch builder node rest element) :
    builder.current? = some node := by
  rw [current?, absorbing.openNodes]
  rfl

/-- The text of the element is added to it. -/
theorem step_text (absorbing : Absorbing limit size switch builder node rest element)
    (empty : builder.document.children node = []) {text : String}
    (raw : switch.mode = .verbatim →
      ¬HoldsEndTag switch.tag.toList text.toList) :
    (builder.step (.text text)).1 = none ∧
      Absorbing limit size switch (builder.step (.text text)).2 node rest
        element := by
  have current := absorbing.current?_eq
  have stepped : builder.step (.text text) =
      (none, builder.attachText (some node) text) := by
    unfold Builder.step
    rcases absorbing.closable with ⟨mode, _⟩ | ⟨mode, _⟩
    · have notHead : some node ≠ builder.head := by
        intro head
        obtain ⟨found, present, root⟩ :=
          absorbing.sound.outer (Or.inr (Or.inl head.symm))
        rw [absorbing.present] at present
        cases present
        have noSwitch := (facts_of_isRoot root).2
        rw [absorbing.isSwitch] at noSwitch
        contradiction
      rw [mode]
      simp only [Builder.inHead, current, Option.isSome_some, Bool.true_and,
        notHead, ne_eq, not_false_eq_true, decide_true, if_true]
    · rw [mode]
      simp only [Builder.inBody, current]
  rw [stepped]
  exact ⟨rfl, absorbing.attachText empty raw⟩

/-- The end tag of the element closes it. -/
theorem step_endTag
    (absorbing : Absorbing limit size switch builder node rest element) :
    (builder.step (.endTag (Text.lower switch.tag))).1 = none ∧
      Steady limit size (builder.step (.endTag (Text.lower switch.tag))).2 := by
  obtain ⟨_, tag, _, lower, other⟩ := absorbing.facts
  have sound := absorbing.sound
  have closed : Steady limit size { builder with openNodes := rest } := by
    refine ⟨{ sound with opened := ?_, short := ?_ }, absorbing.calm⟩
    · intro outer member
      apply sound.opened outer
      rw [absorbing.openNodes]
      exact List.mem_cons_of_mem _ member
    · have short := sound.short
      rw [absorbing.openNodes, List.length_cons] at short
      exact Nat.le_of_succ_le short
  simp only [List.mem_cons, List.not_mem_nil, or_false, not_or] at other
  obtain ⟨notHtml, notHead, notBody, notBreak, _⟩ := other
  have stepped : builder.step (.endTag element.localName) =
      (none, { builder with openNodes := rest }) := by
    unfold Builder.step
    rcases absorbing.closable with ⟨mode, head⟩ | ⟨mode, notEmpty⟩
    · have currentNamed : builder.currentElement?.any
          (fun found => decide (found.localName = element.localName)) =
            true := by
        rw [currentElement?, absorbing.current?_eq, Option.bind_some,
          absorbing.present]
        simp
      rw [mode]
      simp only [Builder.inHead, notHead, head, currentNamed, if_true, if_false,
        absorbing.openNodes, List.tail_cons]
      rw [mode]
    · obtain ⟨outer, tail, rfl⟩ := List.exists_cons_of_ne_nil notEmpty
      have same : Text.sameIgnoringCase element.localName element.localName =
          true := by
        simp [Text.sameIgnoringCase]
      rw [mode]
      simp only [Builder.inBody]
      rw [bodyEndTag_current absorbing.openNodes absorbing.present same
        ⟨notBody, notHtml⟩ notBreak, mode]
  rw [tag, lower, stepped]
  exact ⟨rfl, closed⟩

end Absorbing

/-! ### Whole markups -/

/-- What a builder expects of its lexer: anything; the text of the text-only
element that has just been opened; or the end tag of that element. -/
inductive Phase (limit size : Nat) (builder : Builder) (lexer : Lexer) : Prop where
  | steady : Steady limit size builder → Phase limit size builder lexer
  | opened {switch : TextSwitch} {node : NodeId} {rest : List NodeId}
      {element : Element} :
      Absorbing limit size switch builder node rest element →
      builder.document.children node = [] →
      lexer.switch = some switch →
      Phase limit size builder lexer
  | filled {switch : TextSwitch} {node : NodeId} {rest : List NodeId}
      {element : Element} :
      Absorbing limit size switch builder node rest element →
      lexer.switch = none →
      (lexer.rest = [] ∨ startsEndTag switch.tag.toList lexer.rest = true) →
      Phase limit size builder lexer

namespace Phase

variable {lexer : Lexer}

theorem sound (phase : Phase limit size builder lexer) : Sound limit size builder := by
  cases phase with
  | steady steady => exact steady.sound
  | opened absorbing _ _ => exact absorbing.sound
  | filled absorbing _ _ => exact absorbing.sound

/-- The phase behind a token. -/
private def After (limit size : Nat) (builder : Builder) (token : Token)
    (rest : List Char) : Prop :=
  Phase limit (size + 1) (builder.step token).2
    { rest, switch := (builder.step token).1 }

private theorem after_of_steady (steady : Steady limit size builder)
    (situated : Situated builder) {token : Token} (isToken : IsToken token)
    (rest : List Char) : After limit size builder token rest := by
  cases steady.step situated isToken with
  | steady later => exact .steady later
  | absorbing isSwitch absorbing empty =>
      exact .opened absorbing empty isSwitch

private theorem absorbing_mono {switch : TextSwitch} {node : NodeId}
    {rest : List NodeId} {element : Element}
    (absorbing : Absorbing limit size switch builder node rest element) :
    Absorbing limit (size + 1) switch builder node rest element :=
  { absorbing with sound := absorbing.sound.mono (Nat.le_succ size) }

/-- At the end tag of a text-only element the only token is that end tag. -/
private theorem after_of_filled {switch : TextSwitch} {node : NodeId}
    {rest : List NodeId} {element : Element}
    (absorbing : Absorbing limit size switch builder node rest element)
    {chars : List Char}
    (ends : chars = [] ∨ startsEndTag switch.tag.toList chars = true)
    {token : Token} {after : Lexer}
    (read : Lexer.content chars = (some token, after)) :
    After limit size builder token after.rest := by
  have tagName : IsTagName switch.tag := by
    rw [absorbing.facts.2.1]
    exact absorbing.facts.2.2.1
  have isEndTag : token = .endTag (Text.lower switch.tag) := by
    unfold Lexer.content at read
    rcases ends with rfl | starts
    · cases read
    · rcases readContent?_of_startsEndTag tagName starts with
        none | ⟨tail, found⟩
      · rw [none] at read
        cases read
      · rw [found] at read
        cases read
        rfl
  rw [isEndTag]
  obtain ⟨_, steady⟩ := absorbing.step_endTag
  exact .steady (steady.mono (Nat.le_succ size))

theorem after (phase : Phase limit size builder lexer)
    (situated : Situated builder) {token : Token} {later : Lexer}
    (read : lexer.next = (some token, later)) :
    Phase limit (size + 1) (builder.step token).2
      { rest := later.rest, switch := (builder.step token).1 } := by
  cases phase with
  | steady steady => exact after_of_steady steady situated (Lexer.isToken_next read) _
  | filled absorbing noSwitch ends =>
      unfold Lexer.next at read
      rw [noSwitch] at read
      exact after_of_filled absorbing ends read
  | @opened switch node rest element absorbing empty isSwitch =>
      have same : lexer =
          { rest := lexer.rest, switch := some switch } := by
        rw [← isSwitch]
      rw [same] at read
      rcases Lexer.next_of_switch lexer.rest switch with
        ⟨ends, atEnd⟩ | ⟨text, behind, next, ends, raw⟩
      · rw [atEnd] at read
        exact after_of_filled absorbing ends read
      · rw [next] at read
        cases read
        obtain ⟨noSwitch, filled⟩ := absorbing.step_text empty raw
        exact .filled (absorbing_mono filled) noSwitch ends

end Phase

/-- Building is sound, with at most one more open element for each character
of the markup. -/
theorem Phase.consume {lexer : Lexer} (phase : Phase limit size builder lexer)
    (situated : Situated builder) :
    Sound limit (size + lexer.rest.length) (builder.consume lexer) := by
  generalize length : lexer.rest.length = remaining
  induction remaining using Nat.strong_induction_on
    generalizing size builder lexer with
  | _ remaining induction =>
      rw [consume_eq]
      cases read : lexer.next with
      | mk next later =>
          cases next with
          | none => exact phase.sound.mono (Nat.le_add_right size remaining)
          | some token =>
              have shorter := Lexer.next_length read
              have after := phase.after situated read
              have effect := effect_step situated (Lexer.isToken_next read)
              have still := lasting_situated.effect effect situated
              have most : size + 1 + later.rest.length ≤ size + remaining := by
                omega
              simp only
              split
              · exact after.sound.mono (by omega)
              · have rest := induction later.rest.length (by omega) after still rfl
                exact rest.mono most

theorem Steady.run (steady : Steady limit size builder)
    (situated : Situated builder) (markup : String) :
    Sound limit (size + markup.length) (builder.run markup) := by
  have length : markup.toList.length = markup.length := String.length_toList
  have consumed : ∀ switch, Sound limit (size + markup.length)
      (builder.consume { rest := markup.toList, switch }) := by
    intro switch
    have phase : Phase limit size builder
        { rest := markup.toList, switch } := .steady steady
    rw [← length]
    exact phase.consume situated
  unfold Builder.run
  split
  · exact consumed _
  next whole =>
    obtain ⟨later, still⟩ := (lasting_fragment false).consume situated
      (Bool.eq_false_iff.mpr whole) (Lexer.ofMarkup markup)
    have ended := supplies_startBody later areTagAttributes_nil still
    dsimp only
    split
    · exact consumed none
    · exact (consumed none).supplies ended

/-! ### Where builders start -/

theorem steady_forDocument (limit : Nat) :
    Steady limit 1 (forDocument limit) := by
  have stands : ∀ id, Stands Document.empty id := by
    intro id data present
    obtain ⟨rfl, rfl⟩ := Document.data?_empty present
    exact Or.inl ⟨rfl, rfl⟩
  refine ⟨{ grounded_forDocument limit with
    stands := stands
    accepted := rfl
    maxDepth := rfl
    positive := Nat.le_refl 1
    short := Nat.zero_le 1
    shallow := nofun }, nofun⟩

/-- A fragment can be built below an element in which text is ordinary. -/
theorem steady_forFragment {document : Document}
    (wellFormed : document.WellFormed)
    (rooted : document.data? Document.root = some .document)
    (stands : ∀ id, Stands document id) {context : NodeId} {element : Element}
    (present : document.element? context = some element)
    (ordinary : isTextOnly element = false) (limit : Nat) :
    Steady limit 1 (forFragment document context limit) := by
  refine ⟨{ grounded_forFragment wellFormed rooted present limit with
    stands := stands
    accepted := rfl
    maxDepth := rfl
    positive := Nat.le_refl 1
    short := Nat.le_refl 1
    shallow := nofun }, ?_⟩
  intro node member other found
  change document.element? node = some other at found
  rw [List.mem_singleton.mp member, present] at found
  cases found
  exact ordinary

end Builder

/-! ### The bundled parser -/

/-- A document that markup can be parsed into. -/
structure IsParsed (document : Document) : Prop where
  wellFormed : document.WellFormed
  stands : ∀ id, Stands document id

namespace HtmlParser

open Builder

variable {parser : HtmlParser} {markup : String}

private theorem fault?_eq_none {limit size : Nat} {builder : Builder}
    (sound : Sound limit size builder) (shallow : builder.isStopped = false) :
    builder.fault? = none := by
  rw [fault?, sound.accepted, shallow]
  rfl

/-- Parsing a document fails only if it nests beyond the limit, which takes
more markup than the limit has levels. -/
theorem parseDocument_cases (parser : HtmlParser) (markup : String) :
    (∃ document, (parser.parseDocument markup).value = .ok document ∧
        IsParsed document) ∨
      ((parser.parseDocument markup).value =
          .error (.nestingExceeds parser.maxDepth) ∧
        parser.maxDepth ≤ markup.length + 1) := by
  have sound := (steady_forDocument parser.maxDepth).run
    (situated_forDocument parser.maxDepth) markup
  unfold parseDocument
  generalize (forDocument parser.maxDepth).run markup = builder at sound ⊢
  cases stopped : builder.isStopped with
  | false =>
      simp only [fault?_eq_none sound stopped]
      exact Or.inl ⟨_, rfl, sound.wellFormed, sound.stands⟩
  | true =>
      have isFault : builder.fault? = some (.nestingExceeds parser.maxDepth) := by
        rw [fault?, sound.accepted, stopped, sound.maxDepth]
        rfl
      have tooDeep : builder.tooDeep = true := by
        rw [isStopped, sound.accepted, Option.isSome_none, Bool.false_or,
          Bool.and_eq_true] at stopped
        exact stopped.1
      simp only [isFault]
      refine Or.inr ⟨trivial, ?_⟩
      have deep := sound.shallow tooDeep
      omega

end HtmlParser

end MarkupHarden.Html
