import MarkupHarden.Proofs.Html.Lexing
import MarkupHarden.Proofs.Html.Markup

/-!
# Elements that hold text only

Inside some elements text is read in a mode of its own, up to the end tag.
What the serializer writes between the tags of such an element is read back as
the one text that it was.
-/

namespace MarkupHarden.Html

open Dom (Element Tree)

/-- The names of the elements in which text is read up to an end tag. -/
def textOnlyElements : List String :=
  ["script", "style", "xmp", "iframe", "noembed", "noframes", "textarea",
    "title"]

private theorem mem_textOnlyElements {name : String} {mode : TextMode}
    (found : textModeOf? name = some mode) (notPlaintext : name ≠ "plaintext") :
    name ∈ textOnlyElements := by
  unfold textModeOf? at found
  split at found
  next verbatim =>
    rw [List.contains_iff_mem] at verbatim
    exact List.mem_append_left ["textarea", "title"] verbatim
  next =>
    split at found
    next escapable =>
      rw [List.contains_iff_mem] at escapable
      exact List.mem_append_right
        ["script", "style", "xmp", "iframe", "noembed", "noframes"] escapable
    next => contradiction

/-- The text ends before the end tag, and is raw where it is verbatim. -/
private theorem textOnly_facts : ∀ name ∈ textOnlyElements,
    textModeOf? name ≠ some .endless ∧ '<' ∉ name.toList ∧
      ["style", "script", "xmp", "iframe", "noembed", "noframes",
        "plaintext"].contains name =
          decide (textModeOf? name = some .verbatim) := by
  decide

/-- Between the tags stands a text without end tag that is read back. -/
private theorem textMarkup_governed {mode : TextMode} {name text : String}
    (limited : mode ≠ .endless)
    (noEnd : mode = .verbatim → ¬HoldsEndTag name.toList text.toList)
    (nonempty : text ≠ "") :
    ¬HoldsEndTag name.toList
        (textMarkup (decide (mode = .verbatim)) text).toList ∧
      (textMarkup (decide (mode = .verbatim)) text).toList ≠ [] ∧
        ({ mode, tag := name } : TextSwitch).read
          (textMarkup (decide (mode = .verbatim)) text).toList = text := by
  have notEmpty : text.toList ≠ [] :=
    fun empty => nonempty (String.toList_eq_nil_iff.mp empty)
  cases mode with
  | endless => contradiction
  | verbatim =>
      have same : textMarkup (decide (TextMode.verbatim = .verbatim)) text =
          text := rfl
      rw [same, TextSwitch.read, String.ofList_toList]
      exact ⟨noEnd rfl, notEmpty, rfl⟩
  | escapable =>
      have same :
          (textMarkup (decide (TextMode.escapable = .verbatim)) text).toList =
            CharacterReference.escapeText text.toList := by
        simp [textMarkup]
      rw [same, TextSwitch.read, decoded, CharacterReference.decode_escapeText,
        String.ofList_toList]
      exact ⟨not_holdsEndTag_of_not_mem
        (CharacterReference.not_mem_escapeText _),
        CharacterReference.escapeText_ne_nil notEmpty, rfl⟩

theorem writesRawText_of_none {element : Element}
    (none : textModeOf? element.localName = none) :
    writesRawText element = false := by
  rw [Bool.eq_false_iff]
  intro raw
  rw [writesRawText, Bool.and_eq_true, List.contains_iff_mem] at raw
  revert none
  generalize element.localName = name at raw
  revert raw
  simp only [List.mem_cons, List.not_mem_nil, or_false]
  rintro ⟨_, rfl | rfl | rfl | rfl | rfl | rfl | rfl⟩ <;> decide

theorem writesRawText_of_textSwitch? {element : Element}
    (none : textSwitch? element = none) : writesRawText element = false := by
  by_cases html : element.ns = .html
  · rw [textSwitch?, if_pos html, Option.map_eq_none_iff] at none
    exact writesRawText_of_none none
  · simp [writesRawText, html]

/-- At most one text, which does not hold the end tag where it is verbatim. -/
def HoldsText (name : String) (mode : TextMode) (children : List Tree) : Prop :=
  children = [] ∨ ∃ text, children = [.node (.text text) []] ∧
    (mode = .verbatim → ¬HoldsEndTag name.toList text.toList)

theorem textSwitch?_eq_some_iff {element : Element} {switch : TextSwitch} :
    textSwitch? element = some switch ↔
      element.ns = .html ∧ switch.tag = element.localName ∧
        textModeOf? element.localName = some switch.mode := by
  obtain ⟨mode, tag⟩ := switch
  unfold textSwitch?
  split
  next html =>
    rw [Option.map_eq_some_iff]
    constructor
    · rintro ⟨found, isMode, same⟩
      cases same
      exact ⟨html, rfl, isMode⟩
    · rintro ⟨_, rfl, isMode⟩
      exact ⟨mode, isMode, rfl⟩
  next other => simp [other]

theorem mode_of_textSwitch? {element : Element} {switch : TextSwitch}
    (isSwitch : textSwitch? element = some switch) :
    textModeOf? element.localName = some switch.mode :=
  (textSwitch?_eq_some_iff.mp isSwitch).2.2

/-- The text between the tags is the next token, unless there is none. -/
theorem next_textContent {element : Element} {switch : TextSwitch}
    (isSwitch : textSwitch? element = some switch)
    (notPlaintext : element.localName ≠ "plaintext") {children : List Tree}
    (holds : HoldsText element.localName switch.mode children)
    (rest : List Char) :
    let behind := (endTagMarkup element).toList ++ rest
    let lexer : Lexer :=
      { rest := (forestMarkup (writesRawText element) children).toList ++ behind
        switch := some switch }
    ((∀ text, children = [.node (.text text) []] → text = "") ∧
        lexer.next = ({ rest := behind } : Lexer).next) ∨
      ∃ text, text ≠ "" ∧ children = [.node (.text text) []] ∧
        lexer.next = (some (.text text), { rest := behind }) := by
  obtain ⟨mode, tag⟩ := switch
  obtain ⟨html, isTag, found⟩ := textSwitch?_eq_some_iff.mp isSwitch
  simp only at isTag found holds
  subst isTag
  obtain ⟨limited, noOpen, verbatim⟩ :=
    textOnly_facts _ (mem_textOnlyElements found notPlaintext)
  have notEndless : mode ≠ .endless := fun same => limited (same ▸ found)
  have raw : writesRawText element = decide (mode = .verbatim) := by
    rw [writesRawText, verbatim, found, html]
    simp
  have close : (endTagMarkup element).toList ++ rest =
      '<' :: '/' :: (element.localName.toList ++ '>' :: rest) := by
    rw [toList_endTagMarkup]
    simp
  have nothing := Lexer.next_endTag { mode, tag := element.localName }
    notEndless noOpen rest
  simp only [raw, close]
  rcases holds with rfl | ⟨text, rfl, noEnd⟩
  · exact Or.inl ⟨by simp, nothing⟩
  · have markup : (forestMarkup (decide (mode = .verbatim))
        [.node (.text text) []]).toList =
          (textMarkup (decide (mode = .verbatim)) text).toList := by
      simp [forestMarkup, treeMarkup]
    rw [markup]
    by_cases empty : text = ""
    · left
      subst empty
      have written : (textMarkup (decide (mode = .verbatim)) "").toList = [] := by
        cases mode <;> rfl
      rw [written]
      exact ⟨by simp, nothing⟩
    · right
      obtain ⟨absent, written, decoded⟩ :=
        textMarkup_governed notEndless noEnd empty
      have read := Lexer.next_governed { mode, tag := element.localName }
        notEndless noOpen absent written rest
      rw [decoded] at read
      exact ⟨text, empty, rfl, read⟩

end MarkupHarden.Html
