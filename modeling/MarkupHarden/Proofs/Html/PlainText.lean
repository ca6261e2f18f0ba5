import MarkupHarden.Proofs.Html.Limits
import MarkupHarden.Proofs.Html.Markup
import MarkupHarden.Proofs.Html.Page

/-!
# Markup without tags

Markup without `<` is a single text.  Read as a document it becomes a shell
with that text in its body.  White space alone stands before every element and
is dropped.
-/

namespace MarkupHarden.Html

open Dom (Document Element)

namespace Builder

/-- The builder that has come to an empty body. -/
def atBody (limit : Nat) : Builder where
  document := .shell
  mode := .inBody
  html := some 1
  head := some 2
  body := some 3
  openNodes := [3]
  maxDepth := limit

/-- The builder that has supplied `html` and `head` and stands in the given
mode. -/
def atHead (limit : Nat) (mode : InsertionMode) : Builder where
  document :=
    (Document.empty.grown Document.root (.element (.html "html"))).grown 1
      (.element (.html "head"))
  mode
  html := some 1
  head := some 2
  openNodes := if mode = .inHead then [2] else []
  maxDepth := limit

theorem startHead_forDocument (limit : Nat) :
    ((forDocument limit).startHtml []).startHead [] = atHead limit .inHead :=
  ((unlimited_startHtml []).trans (unlimited_startHead [])).eq_withLimit
    (show ((forDocument 0).startHtml []).startHead [] = atHead 0 .inHead by
      decide +kernel) limit

theorem startBody_atHead (limit : Nat) :
    (atHead limit .afterHead).startBody [] = atBody limit :=
  (unlimited_startBody []).eq_withLimit
    (show (atHead 0 .afterHead).startBody [] = atBody 0 by decide +kernel) limit

theorem startBody_forDocument (limit : Nat) :
    (forDocument limit).startBody [] = atBody limit :=
  (unlimited_startBody []).eq_withLimit
    (show (forDocument 0).startBody [] = atBody 0 by decide +kernel) limit

/-- A first text that is more than white space comes into the body. -/
theorem step_text_forDocument (limit : Nat) {text : String}
    (visible : isWhitespace text = false) :
    (forDocument limit).step (.text text) =
      (none, (atBody limit).attachText (some 3) text) := by
  have supplied : (forDocument limit).step (.text text) =
      (atHead limit .inHead).inHead (.text text) := by
    rw [← startHead_forDocument]
    simp only [step, forDocument, beforeHtml, beforeHead, visible,
      Bool.false_eq_true, if_false]
  have left : (atHead limit .inHead).inHead (.text text) =
      (atHead limit .afterHead).afterHead (.text text) := by
    simp only [inHead, visible, atHead, current?, if_true, List.head?_cons,
      ne_eq, not_true_eq_false, decide_false, Bool.and_false,
      Bool.false_eq_true, if_false, reduceCtorEq]
  rw [supplied, left]
  simp only [afterHead, visible, Bool.false_eq_true, if_false,
    startBody_atHead]
  rfl

end Builder

/-- The document of a single text. -/
def textPage (text : String) : Document :=
  if Builder.isWhitespace text then .shell
  else Document.shell.grown 3 (.text text)

namespace Builder

/-- The builder behind a single text in the body. -/
private def behindText (limit : Nat) (text : String) : Builder :=
  { atBody limit with document := Document.shell.grown 3 (.text text) }

private theorem arrived_behindText (limit : Nat) (text : String) :
    Arrived (behindText limit text) :=
  ⟨rfl, rfl, rfl, 3, .html "body", rfl, rfl⟩

private theorem attachText_atBody (limit : Nat) {text : String}
    (nonempty : text ≠ "") :
    (atBody limit).attachText (some 3) text = behindText limit text :=
  attachText_eq_grown Document.wellFormed_shell rfl nonempty rfl

private theorem consume_nothing (builder : Builder) :
    builder.consume { rest := [] } = builder :=
  consume_of_done (show ({ rest := [] } : Lexer).next = (none, { rest := [] })
    from rfl)

private theorem run_document {limit : Nat} {markup : String} {last : Builder}
    (consumed :
      (forDocument limit).consume { rest := markup.toList } = last)
    (going : last.isStopped = false) :
    (forDocument limit).run markup = last.startBody [] := by
  have whole : (forDocument limit).fragment = false := rfl
  unfold run
  simp only [whole, Bool.false_eq_true, if_false, Lexer.ofMarkup, consumed,
    going]

/-- A builder that has read markup without tags holds its text. -/
private theorem run_plain (limit : Nat) {markup : String}
    (plain : '<' ∉ markup.toList) :
    (forDocument limit).run markup =
      if isWhitespace (decoded markup.toList) then atBody limit
      else behindText limit (decoded markup.toList) := by
  have bare : (forDocument limit).isStopped = false := rfl
  by_cases empty : markup.toList = []
  · have consumed : (forDocument limit).consume { rest := markup.toList } =
        forDocument limit := by
      rw [empty, consume_nothing]
    have blank : isWhitespace (decoded []) = true := by
      simp [decoded, CharacterReference.decode, isWhitespace]
    rw [run_document consumed bare, startBody_forDocument, empty,
      if_pos blank]
  · have read := readContent?_plain plain empty
      (show ([] : List Char).head?.all (· = '<') = true from rfl)
    rw [List.append_nil] at read
    generalize decoded markup.toList = text at read ⊢
    by_cases blank : isWhitespace text = true
    · have stepped : (forDocument limit).step (.text text) =
          (none, forDocument limit) := by
        simp only [step, forDocument, beforeHtml, blank, if_true]
      have consumed := consume_of_content read stepped bare
      rw [consume_nothing] at consumed
      rw [run_document consumed bare, startBody_forDocument, if_pos blank]
    · have visible : isWhitespace text = false := Bool.eq_false_iff.mpr blank
      have nonempty : text ≠ "" := fun same =>
        blank (same ▸ (by decide : isWhitespace "" = true))
      have stepped : (forDocument limit).step (.text text) =
          (none, behindText limit text) := by
        rw [step_text_forDocument limit visible,
          attachText_atBody limit nonempty]
      have arrived := arrived_behindText limit text
      have consumed := consume_of_content read stepped arrived.going
      rw [consume_nothing] at consumed
      rw [run_document consumed arrived.going, arrived.startBody_eq,
        if_neg blank]

end Builder

/-- Markup without tags is read as the page of its text. -/
theorem HtmlParser.parseDocument_plain (parser : HtmlParser) {markup : String}
    (plain : '<' ∉ markup.toList) :
    (parser.parseDocument markup).value =
      .ok (textPage (decoded markup.toList)) := by
  have sound : ∀ text : String,
      (if Builder.isWhitespace text then Builder.atBody parser.maxDepth
        else Builder.behindText parser.maxDepth text).fault? = none ∧
      (if Builder.isWhitespace text then Builder.atBody parser.maxDepth
        else Builder.behindText parser.maxDepth text).document =
          textPage text := by
    intro text
    unfold textPage
    split <;> exact ⟨rfl, rfl⟩
  obtain ⟨fine, document⟩ := sound (decoded markup.toList)
  rw [parseDocument, Builder.run_plain parser.maxDepth plain]
  simp only [fine, document]

/-! ### The page of a text -/

section TextPage

variable (text : String)

private theorem wellFormed_grownShell :
    (Document.shell.grown 3 (.text text)).WellFormed :=
  Document.wellFormed_shell.grown rfl _

theorem wellFormed_textPage : (textPage text).WellFormed := by
  unfold textPage
  split
  · exact Document.wellFormed_shell
  · exact wellFormed_grownShell text

theorem documentElement?_textPage :
    (textPage text).documentElement? = some 1 := by
  unfold textPage
  split <;> rfl

theorem body?_textPage : (textPage text).body? = some 3 := by
  unfold textPage
  split <;> rfl

theorem firstBody_textPage :
    (textPage text).firstElementNamed? Document.root "body" = some 3 := by
  unfold textPage
  split <;> rfl

/-- The only element from the body down is the body. -/
theorem eq_body_of_textPage {id : Dom.NodeId} {element : Element}
    (member : id ∈ (textPage text).subtree 3)
    (found : (textPage text).element? id = some element) :
    element = .html "body" := by
  have top : (textPage text).element? 3 = some (.html "body") := by
    unfold textPage
    split <;> rfl
  have below : id = 3 ∨ (textPage text).element? id = none := by
    unfold textPage at member ⊢
    split
    next blank =>
      have nodes : Document.shell.subtree 3 = [3] := rfl
      rw [if_pos blank, nodes, List.mem_singleton] at member
      exact Or.inl member
    next visible =>
      have nodes : (Document.shell.grown 3 (.text text)).subtree 3 =
          [3, 4] := rfl
      rw [if_neg visible, nodes, List.mem_pair] at member
      exact member.imp_right fun same => by
        rw [same]
        rfl
  rcases below with rfl | none
  · rw [top] at found
    exact (Option.some.inj found).symm
  · rw [none] at found
    contradiction

private theorem innerHtml_textPage :
    innerHtml (textPage text) 3 =
      if Builder.isWhitespace text then "" else textMarkup false text := by
  have nothing : innerHtml Document.shell 3 = "" := rfl
  have written : innerHtml (Document.shell.grown 3 (.text text)) 3 =
      textMarkup false text := by
    have content : (Document.shell.grown 3 (.text text)).forest 3 =
        [.node (.text text) []] := rfl
    have top : (Document.shell.grown 3 (.text text)).element? 3 =
        some (.html "body") := rfl
    have escaped : writesRawText (.html "body") = false := rfl
    rw [innerHtml, serialize_inner (wellFormed_grownShell text), content, top,
      Option.any_some, escaped]
    simp [forestMarkup, treeMarkup]
  unfold textPage
  split
  next => exact nothing
  next => exact written

/-- Written and read again, the body keeps its text. -/
theorem textPage_innerHtml :
    '<' ∉ (innerHtml (textPage text) 3).toList ∧
      textPage (decoded (innerHtml (textPage text) 3).toList) =
        textPage text := by
  rw [innerHtml_textPage]
  split
  next blank =>
    have nothing : decoded "".toList = "" := by
      simp [decoded, CharacterReference.decode]
    have dropped : Builder.isWhitespace "" = true := rfl
    rw [nothing, textPage, textPage, if_pos dropped, if_pos blank]
    exact ⟨by simp, rfl⟩
  next visible =>
    have written : (textMarkup false text).toList =
        CharacterReference.escapeText text.toList := by
      simp [textMarkup]
    rw [written, decoded, CharacterReference.decode_escapeText,
      String.ofList_toList]
    exact ⟨CharacterReference.not_mem_escapeText _, rfl⟩

end TextPage

end MarkupHarden.Html
