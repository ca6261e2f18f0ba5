import MarkupHarden.Proofs.Html.Agreement
import MarkupHarden.Proofs.Html.PlainText

/-!
# Markup behind a body tag

A body tag brings a page to an empty body and is ignored in a fragment.  What
follows it is read to the same content in both, below any element that stands
where the shell has its body.
-/

namespace MarkupHarden.Html

open Dom (Document)
open Dom.Document (SharesContent)

/-- The markup is a body tag with `content` behind it. -/
def OpensBody (markup content : String) : Prop :=
  ∃ attributes selfClosing, readContent? markup.toList =
    some (.startTag "body" attributes selfClosing, content.toList)

/-- The tag may stand without attributes. -/
theorem opensBody_append (content : String) :
    OpensBody ("<body>" ++ content) content := by
  refine ⟨[], false, ?_⟩
  rw [String.toList_append]
  exact readContent?_startTag (by decide : TagSafe (.html "body"))
    content.toList

namespace Builder

variable {page part : Builder} {limit : Nat} {attributes : TagAttributes}
  {selfClosing : Bool} {markup content : String}

/-! ### Pages -/

private theorem withBody_atHead (limit : Nat) :
    (atHead limit .afterHead).withBody =
      { atBody limit with openNodes := [], mode := .afterHead } :=
  unlimited_withBody.eq_withLimit
    (show (atHead 0 .afterHead).withBody =
      { atBody 0 with openNodes := [], mode := .afterHead } by decide +kernel)
    limit

/-- A first body tag supplies the body and gives it the attributes. -/
theorem step_bodyTag (limit : Nat) (attributes : TagAttributes)
    (selfClosing : Bool) :
    (forDocument limit).step (.startTag "body" attributes selfClosing) =
      (none, (atBody limit).mergeAttributes (some 3) attributes) := by
  have behind : isHeadElement "body" = false := by decide
  have supplied :
      (forDocument limit).step (.startTag "body" attributes selfClosing) =
        (atHead limit .inHead).inHead
          (.startTag "body" attributes selfClosing) := by
    rw [← startHead_forDocument]
    simp only [step, forDocument, beforeHtml, beforeHead, String.reduceEq,
      if_false]
  have left :
      (atHead limit .inHead).inHead
          (.startTag "body" attributes selfClosing) =
        (none, (atHead limit .afterHead).startBody attributes) := by
    simp only [inHead, afterHead, behind, String.reduceEq, if_false,
      Bool.false_eq_true, if_true]
    rfl
  have headed : (atHead limit .afterHead).head.isNone = false := rfl
  have present : Document.shell.element? 3 = some (.html "body") := rfl
  rw [supplied, left, startBody_eq]
  simp only [headed, Bool.false_eq_true, if_false, withBody_atHead,
    mergeAttributes, atBody, present, reduceCtorEq]
  rfl

theorem onPage_atBody (limit : Nat) : OnPage (atBody limit) where
  wellFormed := Document.wellFormed_shell
  rooted := rfl
  html := by
    rintro _ ⟨⟩
    rfl
  head := by
    rintro _ ⟨⟩
    rfl
  body := by
    rintro _ ⟨⟩
    rfl
  opened := by
    intro node member
    rw [List.mem_singleton.mp member]
    exact ⟨.html "body", rfl⟩
  mode := rfl
  whole := rfl
  accepted := rfl
  isHtml := rfl
  isHead := rfl
  isBody := rfl
  isOpen := List.cons_ne_nil _ _
  within := fun _ member => Or.inl (List.mem_singleton.mp member)
  frame := fun _ _ => rfl

theorem OnPage.body? (onPage : OnPage page) :
    page.document.body? = some 3 := by
  have atRoot : page.document.children 0 = [1] :=
    onPage.frame 0 (by decide)
  have atHtml : page.document.children 1 = [2] ++ [3] :=
    onPage.frame 1 (by decide)
  have top := Document.documentElement?_eq atRoot (onPage.html 1 onPage.isHtml)
  refine Document.body?_eq top atHtml ?_ (onPage.body 3 onPage.isBody)
  intro id member
  rw [List.mem_singleton.mp member, Bool.eq_false_iff]
  intro named
  exact absurd (isHtmlElement_inj (onPage.head 2 onPage.isHead) named)
    (by decide)

theorem OnPage.arrived (onPage : OnPage page)
    (going : page.isStopped = false) : Arrived page := by
  obtain ⟨element, present, _⟩ :=
    onPage.outer (Or.inr (Or.inr onPage.isBody))
  refine ⟨onPage.mode, going, ?_, 3, element, onPage.isBody, present⟩
  rw [onPage.isHead, Option.isSome_some]

/-- A page that starts with a body tag has in its body what follows the tag. -/
theorem run_bodyTag
    (read : readContent? markup.toList =
      some (.startTag "body" attributes selfClosing, content.toList))
    (accepted : ((forDocument limit).run markup).isStopped = false) :
    let later := ((atBody limit).mergeAttributes (some 3) attributes).consume
      (Lexer.ofMarkup content)
    later.isStopped = false ∧
      (forDocument limit).run markup = later.startBody [] := by
  have going :
      ((atBody limit).mergeAttributes (some 3) attributes).isStopped = false :=
    rfl
  have opened := consume_of_content read
    (step_bodyTag limit attributes selfClosing) going
  have whole : (forDocument limit).fragment = false := rfl
  unfold run at accepted ⊢
  simp only [whole, Bool.false_eq_true, if_false, Lexer.ofMarkup, opened]
    at accepted ⊢
  split at accepted
  next stopped =>
    rw [stopped] at accepted
    contradiction
  next goesOn => exact ⟨Bool.eq_false_iff.mpr goesOn, if_neg goesOn⟩

/-! ### Fragments -/

section Fragment

variable {start : Document}
  (present : start.element? 3 = some (.html "body"))

include present

/-- Inside a body the text of a fragment is read as content. -/
theorem run_forFragment_body (limit : Nat) (markup : String) :
    (forFragment start 3 limit).run markup =
      (forFragment start 3 limit).consume (Lexer.ofMarkup markup) := by
  have current : (forFragment start 3 limit).currentElement? =
      some (.html "body") := present
  have noSwitch : textSwitch? (.html "body") = none := by decide
  have isFragment : (forFragment start 3 limit).fragment = true := rfl
  unfold run
  rw [if_pos isFragment, current, Option.bind_some, noSwitch]
  rfl

/-- A body tag is ignored in a fragment. -/
theorem run_forFragment_bodyTag (limit : Nat)
    (opens : OpensBody markup content) :
    (forFragment start 3 limit).run markup =
      (forFragment start 3 limit).run content := by
  obtain ⟨attributes, selfClosing, read⟩ := opens
  have outside : (forFragment start 3 limit).inForeignContent = false := by
    have current : (forFragment start 3 limit).currentElement? =
        some (.html "body") := present
    rw [inForeignContent, current]
    rfl
  have stepped :
      (forFragment start 3 limit).step
          (.startTag "body" attributes selfClosing) =
        (none, forFragment start 3 limit) := by
    have mode : (forFragment start 3 limit).mode = .inBody := rfl
    rw [step, mode]
    simp only [inBody, bodyStartTag, outside, htmlStartTag,
      Bool.false_eq_true, if_false, String.reduceEq, if_true]
    rfl
  have going : (forFragment start 3 limit).isStopped = false := rfl
  rw [run_forFragment_body present, run_forFragment_body present]
  exact consume_of_content read stepped going

end Fragment

/-! ### Both -/

theorem sharesContent_shell : SharesContent 3 4 Document.shell .shell :=
  .of_leaf rfl rfl (fun _ => rfl) rfl rfl

/-- A page behind its body tag and a fragment at its start are at one. -/
theorem mirrors_start {start : Document} (wellFormed : start.WellFormed)
    (shares : SharesContent 3 4 .shell start) (limit : Nat)
    (attributes : TagAttributes) :
    Mirrors ((atBody limit).mergeAttributes (some 3) attributes)
      (forFragment start 3 limit) :=
  keeps_mergeBody attributes _ _
    (.intro (onPage_atBody limit) wellFormed shares)

/-- A fragment is accepted where a page was not refused. -/
theorem Mirrors.fault?_eq (mirrors : Mirrors page part) :
    part.fault? = none := by
  have going := mirrors.not_isStopped
  obtain ⟨onPage, _, _⟩ := mirrors
  have accepted : ∀ other, (page.asFragment other).refusal = none :=
    fun _ => onPage.accepted
  rw [fault?, accepted, going]
  rfl

end Builder

open Builder

/-- The content behind a body tag is the same in a page as in a fragment, which
may be parsed with the tag or without it. -/
theorem HtmlParser.parseDocument_bodyTag {parser : HtmlParser}
    {markup content : String} (opens : OpensBody markup content)
    {document : Document}
    (parsed : (parser.parseDocument markup).value = .ok document) :
    document.body? = some 3 ∧
      ∀ start : Document, start.WellFormed →
        start.element? 3 = some (.html "body") →
        SharesContent 3 4 .shell start →
        ∃ after,
          (parser.parseFragment content start 3).value = (.ok (), after) ∧
            (parser.parseFragment markup start 3).value = (.ok (), after) ∧
            after.forest 3 = document.forest 3 := by
  obtain ⟨attributes, selfClosing, read⟩ := opens
  obtain ⟨isRun, accepted⟩ := eq_run_of_parseDocument parsed
  obtain ⟨going, run⟩ := run_bodyTag read accepted
  have mirrors (start : Document) (wellFormed : start.WellFormed)
      (shares : SharesContent 3 4 .shell start) :=
    (mirrors_start wellFormed shares parser.maxDepth attributes).consume going
  have onPage :=
    (mirrors .shell Document.wellFormed_shell sharesContent_shell).onPage
  rw [(onPage.arrived going).startBody_eq] at run
  rw [isRun, run]
  refine ⟨onPage.body?, ?_⟩
  intro start wellFormed present shares
  have later := mirrors start wellFormed shares
  have readContent :=
    run_forFragment_body present parser.maxDepth content
  have parseFragment_eq (written : String)
      (same : (forFragment start 3 parser.maxDepth).run written =
        (forFragment start 3 parser.maxDepth).consume
          (Lexer.ofMarkup content)) :
      (parser.parseFragment written start 3).value =
        (.ok (), ((forFragment start 3 parser.maxDepth).consume
          (Lexer.ofMarkup content)).document) := by
    simp only [parseFragment, present, Option.isNone_some, Bool.false_eq_true,
      if_false, same, later.fault?_eq]
  refine ⟨_, parseFragment_eq content readContent, parseFragment_eq markup ?_,
    later.forest_eq⟩
  rw [run_forFragment_bodyTag present parser.maxDepth
    ⟨attributes, selfClosing, read⟩, readContent]

end MarkupHarden.Html
