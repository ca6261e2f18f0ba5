import MarkupHarden.Proofs.Harden.Traversal
import MarkupHarden.Proofs.Rule.Guarantee

/-!
# What a traversal guarantees

A traversal with built-in rules never fails.  Behind it every element of the
subtree has the guarantees of all rules at once.
-/

namespace MarkupHarden

open Dom (Document Element NodeData NodeId)

namespace Dom.Document

open Traversal

variable {document : Document}

theorem WellFormed.traverse_guarantees (wellFormed : document.WellFormed)
    (top : NodeId) {rules : RuleSet} (built : rules.OfBuiltins)
    {context : Rule.Context} (hosted : context.HasHostedBase)
    (upgradable : ∀ id ∈ document.subtree top, ∀ element,
      document.element? id = some element →
        Rule.Upgradable context element) :
    (∃ report,
        (document.traverse top rules context).result = .ok report) ∧
      ∀ id ∈ (document.traverse top rules context).document.subtree top,
        ∀ element,
          (document.traverse top rules context).document.element? id =
              some element →
            ∀ rule ∈ rules.rules, rule.Guarantee context element := by
  obtain ⟨result, transformed⟩ := wellFormed.traverse_of_faultFree
    (faultFree_of_builtin document context built.builtin (document.subtree top))
  refine ⟨⟨_, result⟩, ?_⟩
  intro id member element found
  rw [transformed.sameLinks.subtree] at member
  rw [transformed.element? member] at found
  obtain ⟨old, present, rfl⟩ := Option.map_eq_some_iff.mp found
  exact Rule.guarantee_effect hosted rules.rules built.builtin built.ordered
    (upgradable id member old present)

/-- An anchor that leads to an `http` URL. -/
def httpAnchor : Element where
  localName := "a"
  ns := .html
  attributes := [("href", "http://[::1]/")]

/-- The loopback address as a URL with the given scheme. -/
def loopback (scheme : String) : Url where
  scheme
  authority := some { host := .ipv6 [0, 0, 0, 0, 0, 0, 0, 1] }
  path := "/"

/-- An anchor can be upgraded when its link can. -/
theorem upgradable_anchor {context : Rule.Context} {link : String}
    (resolves : Rule.UpgradeResolves context link) :
    Rule.Upgradable context
      { localName := "a", ns := .html, attributes := [("href", link)] } := by
  refine ⟨List.nodup_singleton _, ?_⟩
  intro key member value found
  rcases List.mem_cons.mp member with rfl | action
  · rw [← Option.some.inj found]
    exact resolves
  · rw [List.mem_singleton.mp action] at found
    contradiction

/-- One resolved link and its upgrade settle whether it can be upgraded. -/
theorem upgradeResolves_of_eq {context : Rule.Context} {link : String}
    {url upgraded again : Url}
    (read : context.resolver.resolve link = .absolute url)
    (changed : url.withSpecialScheme? "https" = some upgraded)
    (readAgain : context.resolver.resolve upgraded.text = .absolute again)
    (secure : again.scheme = "https") : Rule.UpgradeResolves context link := by
  intro other _ absolute _ upgradedEq
  have same : url = other :=
    Url.Resolution.absolute.inj (read.symm.trans absolute)
  rw [← same, changed] at upgradedEq
  cases upgradedEq
  exact ⟨again, readAgain, secure⟩

theorem upgradable_httpAnchor : Rule.Upgradable {} httpAnchor := by
  apply upgradable_anchor
  have read : ({} : Url.Resolver).resolve "http://[::1]/" =
      .absolute (loopback "http") := by decide +kernel
  have readAgain : ({} : Url.Resolver).resolve (loopback "https").text =
      .absolute (loopback "https") := by decide +kernel
  exact upgradeResolves_of_eq read (by decide) readAgain rfl

/-- A page that consists of one element. -/
theorem element?_page {element found : Element} {id : NodeId}
    (present : (empty.grown root (.element element)).element? id =
      some found) : found = element := by
  have payload := element?_eq_some_iff.mp present
  rw [data?_grown (show root < empty.nodeCount by decide)] at payload
  split at payload
  · exact (NodeData.element.inj (Option.some.inj payload)).symm
  · cases (data?_empty payload).2

theorem wellFormed_page (element : Element) :
    (empty.grown root (.element element)).WellFormed :=
  wellFormed_empty.grown (by decide) (.element element)

theorem traverse_guarantees_httpAnchor :
    let document := empty.grown root (.element httpAnchor)
    (∃ report, (document.traverse root .default {}).result = .ok report) ∧
      ∀ id ∈ (document.traverse root .default {}).document.subtree root,
        ∀ element,
          (document.traverse root .default {}).document.element? id =
              some element →
            ∀ rule ∈ RuleSet.default.rules, rule.Guarantee {} element := by
  intro document
  refine (wellFormed_page httpAnchor).traverse_guarantees root
    RuleSet.ofBuiltins_default Rule.Context.hasHostedBase_of_none ?_
  intro id _ element found
  rw [element?_page found]
  exact upgradable_httpAnchor

end Dom.Document

end MarkupHarden
