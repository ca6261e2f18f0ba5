import MarkupHarden.Proofs.Harden.Modes
import MarkupHarden.Proofs.Html.PlainText

/-!
# Markup handed back as it is

A call that is asked for a fragment hands markup without `<` back as it is.
`hardenWith_plainText` compares this with what the call leaves out: parsing,
hardening and writing that markup gives other text, but text that is read as
the same document.
-/

namespace MarkupHarden

open Dom (Document Element)

variable {context : Rule.Context}

/-- Built-in rules have nothing to do on a body without attributes. -/
theorem Rule.effect_body {rules : List Rule}
    (builtin : ∀ rule ∈ rules, rule.isCustom = false) :
    RuleSet.effect context rules (.html "body") = .html "body" := by
  have each : ∀ rule : Rule, rule.isCustom = false →
      (rule.apply context (.html "body")).element = .html "body" := by
    intro rule builtin
    cases rule with
    | custom rule => contradiction
    | _ => rfl
  induction rules with
  | nil => rfl
  | cons rule rules induction =>
      obtain ⟨first, others⟩ := List.forall_mem_cons.mp builtin
      rw [RuleSet.effect, List.foldl_cons, each rule first]
      exact induction others

open Traversal

/-- A traversal of the body of a text page changes nothing. -/
theorem Html.traverse_textPage (text : String) {rules : RuleSet}
    (builtin : ∀ rule ∈ rules.rules, rule.isCustom = false) :
    ((textPage text).traverse 3 rules context).document = textPage text := by
  obtain ⟨_, transformed⟩ := (wellFormed_textPage text).traverse_of_faultFree
    (faultFree_of_builtin (textPage text) context builtin
      ((textPage text).subtree 3))
  refine transformed.eq_self ?_
  intro id member element found
  rw [eq_body_of_textPage text member found]
  exact Rule.effect_body builtin

namespace Engine

/-- Markup without `<` comes back as it is.  Had it been parsed, hardened with
built-in rules and written, the outcome `written` would be read as the same
document. -/
theorem hardenWith_plainText (parser : Html.HtmlParser) {markup : String}
    (plain : '<' ∉ markup.toList) {rules : RuleSet}
    (builtin : ∀ rule ∈ rules.rules, rule.isCustom = false)
    (baseUrl : Option Url) :
    let engine := bundled parser
    let options : Options := { rules, baseUrl }
    (engine.hardenWith (.markup markup) options).value =
        .ok (.markup markup) ∧
      ∃ working : WorkingTree, ∃ report written,
        (parser.parseDocument markup).value = .ok working.document ∧
        working.document.body? = some working.root ∧
        (WorkingTree.ofMarkup? engine.parser markup
          options.wholeDocument).value = some working ∧
        (working.document.traverse working.root rules
          options.ruleContext).result = .ok report ∧
        Html.innerHtml
          (working.document.traverse working.root rules
            options.ruleContext).document working.root = written ∧
        (engine.finish options working).value = .ok (.markup written) ∧
        (parser.parseDocument written).value = .ok working.document := by
  intro engine options
  generalize isPage : Html.textPage (Html.decoded markup.toList) = page
  have parsed : (parser.parseDocument markup).value = .ok page := by
    rw [parser.parseDocument_plain plain, isPage]
  have body : page.body? = some 3 := by
    rw [← isPage, Html.body?_textPage]
  have wellFormed : page.WellFormed := isPage ▸ Html.wellFormed_textPage _
  have unchanged : (page.traverse 3 options.rules
      options.ruleContext).document = page := by
    rw [← isPage]
    exact Html.traverse_textPage _ builtin
  have faultFree := faultFree_of_builtin page options.ruleContext builtin
    (page.subtree 3)
  have written : (parser.parseDocument (Html.innerHtml page 3)).value =
      .ok page := by
    obtain ⟨plainAgain, same⟩ :=
      Html.textPage_innerHtml (Html.decoded markup.toList)
    rw [isPage] at plainAgain same
    rw [parser.parseDocument_plain plainAgain, same]
  refine ⟨?_, { document := page, root := 3 }, _, Html.innerHtml page 3,
    parsed, body, ?_, (wellFormed.traverse_of_faultFree faultFree).1, ?_, ?_,
    written⟩
  · have untouched : isPlainText options markup = true := by
      simp [isPlainText, plain, options]
    change (engine.withParsing options (.markup markup)).value = _
    rw [withParsing, if_pos untouched]
    rfl
  · have whole : page.documentElement?.isSome = true := by
      rw [← isPage, Html.documentElement?_textPage]
      rfl
    have first : page.firstElementNamed? Document.root "body" = some 3 := by
      rw [← isPage, Html.firstBody_textPage]
    have read : (WorkingTree.parse? engine.parser markup).value = some page :=
      WorkingTree.value_parse?_of_documentElement parsed whole
    rw [WorkingTree.ofMarkup?, Logged.value_bind, Logged.value_pure, read,
      Option.bind_some, WorkingTree.select?, WorkingTree.rootName,
      if_neg Bool.false_ne_true, first]
    rfl
  · exact congrArg (Html.innerHtml · 3) unchanged
  · have finished :
        (engine.finish options { document := page, root := 3 }).value =
          .ok (.ofTree engine.serializer options (some {
            document :=
              (page.traverse 3 options.rules options.ruleContext).document
            root := 3 })) :=
      engine.finish_of_faultFree wellFormed faultFree
    rw [finished, unchanged]
    rfl

/-- A stray ampersand is written as a reference and read as itself. -/
theorem hardenWith_plainText_ampersand :
    let markup := " salt & pepper"
    let engine := bundled {}
    let options : Options := { rules := .default, baseUrl := none }
    '<' ∉ markup.toList ∧
      (∀ rule ∈ RuleSet.default.rules, rule.isCustom = false) ∧
      (engine.hardenWith (.markup markup) options).value =
        .ok (.markup markup) ∧
      ∃ working : WorkingTree, ∃ report written,
        (({} : Html.HtmlParser).parseDocument markup).value =
          .ok working.document ∧
        working.document.body? = some working.root ∧
        (WorkingTree.ofMarkup? engine.parser markup
          options.wholeDocument).value = some working ∧
        (working.document.traverse working.root .default
          options.ruleContext).result = .ok report ∧
        Html.innerHtml
          (working.document.traverse working.root .default
            options.ruleContext).document working.root = written ∧
        (engine.finish options working).value = .ok (.markup written) ∧
        (({} : Html.HtmlParser).parseDocument written).value =
          .ok working.document := by
  intro markup engine options
  have plain : '<' ∉ markup.toList := by decide
  have builtin : ∀ rule ∈ RuleSet.default.rules, rule.isCustom = false := by
    decide
  exact ⟨plain, builtin, hardenWith_plainText {} plain builtin none⟩

end Engine

end MarkupHarden
