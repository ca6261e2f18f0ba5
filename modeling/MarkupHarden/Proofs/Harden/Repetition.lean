import MarkupHarden.Proofs.Harden.Guarantee
import MarkupHarden.Proofs.Rule.Repetition

/-!
# Hardening twice

What a set of built-in rules has hardened it leaves alone: an element, and
every element of a subtree that a traversal has gone through.
-/

namespace MarkupHarden

open Dom (Document Element NodeId)

variable {rules : RuleSet} {context : Rule.Context}

private theorem effect_settles (built : rules.OfBuiltins) {element : Element}
    (upgradable : Rule.Upgradable context element) :
    RuleSet.effect context rules.rules
        (RuleSet.effect context rules.rules element) =
      RuleSet.effect context rules.rules element :=
  Rule.effect_effect built.builtin built.ordered upgradable

/-- A second traversal finds nothing to change, and reports what the first one
reported. -/
theorem Dom.Document.WellFormed.traverse_traverse {document : Document}
    (wellFormed : document.WellFormed) (top : NodeId)
    (built : rules.OfBuiltins)
    (upgradable : ∀ id ∈ document.subtree top, ∀ element,
      document.element? id = some element →
        Rule.Upgradable context element) :
    let once := document.traverse top rules context
    let twice := once.document.traverse top rules context
    twice.document = once.document ∧ twice.result = once.result := by
  intro once twice
  obtain ⟨result, transformed⟩ := wellFormed.traverse_of_faultFree
    (Traversal.faultFree_of_builtin document context built.builtin
      (document.subtree top))
  obtain ⟨resultAgain, transformedAgain⟩ :=
    (transformed.wellFormed wellFormed).traverse_of_faultFree
      (Traversal.faultFree_of_builtin once.document context built.builtin
        (once.document.subtree top))
  have sameIds : once.document.subtree top = document.subtree top := by
    rw [transformed.sameLinks.subtree]
  constructor
  · refine transformedAgain.eq_self ?_
    intro id member element found
    rw [sameIds] at member
    rw [transformed.element? member] at found
    obtain ⟨old, present, rfl⟩ := Option.map_eq_some_iff.mp found
    exact effect_settles built (upgradable id member old present)
  · rw [result, resultAgain, sameIds, transformed.countVisited_eq,
      transformed.countElements_eq]

/-- Built-in rules, one by one, as a set and in a traversal, do nothing the
second time. -/
theorem RuleSet.OfBuiltins.hardened_again (built : rules.OfBuiltins)
    (context : Rule.Context) :
    (∀ element, Rule.Upgradable context element →
        (rules.apply context (rules.apply context element).element).element =
          (rules.apply context element).element) ∧
      (∀ rule : Rule, rule.isCustom = false →
        ∀ element, Rule.Upgradable context element →
          (rule.apply context (rule.apply context element).element).element =
            (rule.apply context element).element) ∧
      ∀ document : Document, document.WellFormed → ∀ top,
        (∀ id ∈ document.subtree top, ∀ element,
          document.element? id = some element →
            Rule.Upgradable context element) →
          let once := document.traverse top rules context
          let twice := once.document.traverse top rules context
          twice.document = once.document ∧ twice.result = once.result := by
  refine ⟨?_, ?_, ?_⟩
  · intro element upgradable
    simp only [built.apply_eq_effect]
    exact effect_settles built upgradable
  · intro rule builtin element upgradable
    exact Rule.apply_apply builtin upgradable
  · intro document wellFormed top upgradable
    exact wellFormed.traverse_traverse top built upgradable

/-- An anchor with a relative link. -/
def newsAnchor : Element where
  localName := "a"
  ns := .html
  attributes := [("href", "news")]

/-- Links are relative to the page at the loopback address. -/
def loopbackContext : Rule.Context where
  resolver := { base := some (Document.loopback "http") }

private theorem upgradable_newsAnchor :
    Rule.Upgradable loopbackContext newsAnchor := by
  apply Document.upgradable_anchor
  let news (scheme : String) : Url :=
    { Document.loopback scheme with path := "/news" }
  have read : loopbackContext.resolver.resolve "news" =
      .absolute (news "http") := by decide +kernel
  have readAgain : loopbackContext.resolver.resolve (news "https").text =
      .absolute (news "https") := by decide +kernel
  exact Document.upgradeResolves_of_eq read (by decide) readAgain rfl

theorem RuleSet.hardened_again_newsAnchor :
    let element := (RuleSet.default.apply loopbackContext newsAnchor).element
    let linked := (Rule.httpsLinks.apply loopbackContext newsAnchor).element
    let page := Document.empty.grown Document.root (.element newsAnchor)
    let once := page.traverse Document.root .default loopbackContext
    let twice :=
      once.document.traverse Document.root .default loopbackContext
    (RuleSet.default.apply loopbackContext element).element = element ∧
      (Rule.httpsLinks.apply loopbackContext linked).element = linked ∧
      twice.document = once.document ∧ twice.result = once.result := by
  obtain ⟨together, alone, traversed⟩ :=
    RuleSet.ofBuiltins_default.hardened_again loopbackContext
  refine ⟨together newsAnchor upgradable_newsAnchor,
    alone .httpsLinks rfl newsAnchor upgradable_newsAnchor,
    traversed _ (Document.wellFormed_page newsAnchor) Document.root ?_⟩
  intro id _ element found
  rw [Document.element?_page found]
  exact upgradable_newsAnchor

end MarkupHarden
