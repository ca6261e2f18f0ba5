import MarkupHarden.Proofs.Rule.Guarantee

/-!
# Rules that run again

What the built-in rules of a set guarantee together is also what each of them
looks for, so that none of them finds anything to do when the set runs a second
time.  The one difference is an `http` URL without a host, which no rule can
upgrade: `Done` asks of links only that they cannot be upgraded any further.
-/

namespace MarkupHarden

open Dom (Element)

namespace Rule

variable {context : Context} {element : Element} {key : String}

/-- No value of the attribute has an `https` form. -/
def Formless (context : Context) (element : Element) (key : String) : Prop :=
  ∀ value, element.attribute? key = some value →
    httpsForm? context value = none

/-- A built-in rule has nothing to do on an element. -/
def Done (context : Context) (element : Element) : Rule → Prop
  | httpsLinks => element.isHtml "a" → Formless context element "href"
  | httpsForms => element.isHtml "form" → Formless context element "action"
  | rule => rule.Guarantee context element

/-- Rules that upgrade nothing are done when they keep what they promise. -/
theorem done_iff_guarantee {rule : Rule} (notLinks : rule ≠ httpsLinks)
    (notForms : rule ≠ httpsForms) :
    rule.Done context element ↔ rule.Guarantee context element := by
  cases rule with
  | httpsLinks => exact absurd rfl notLinks
  | httpsForms => exact absurd rfl notForms
  | _ => rfl

/-! ### Rules that have nothing to do -/

private theorem setBlankTarget_of_guarantee
    (holds : blankTarget.Guarantee context element) :
    setBlankTarget element = element := by
  obtain ⟨targeted, hinted⟩ := holds
  have first : (if supportsTarget element then
      element.setAttribute "target" "_blank" else element) = element := by
    split
    next supports =>
      exact Element.setAttribute_of_attribute?_eq_some
        (targeted ((supportsTarget_iff element).mp supports))
    next => rfl
  unfold setBlankTarget
  simp only [first]
  split
  next hints =>
    simp only [Bool.and_eq_true, Bool.not_eq_true', Bool.or_eq_true] at hints
    obtain ⟨untargeted, linked⟩ := hints
    have targetless : ¬TakesTarget element := by
      intro takes
      rw [Element.hasAttribute_eq, targeted takes] at untargeted
      contradiction
    rcases hinted targetless linked.symm with target | hint
    · rw [target] at untargeted
      contradiction
    · exact Element.setAttribute_of_attribute?_eq_some hint
  next => rfl

private theorem upgradeAttribute_of_formless
    (formless : Formless context element key) :
    (upgradeAttribute context element key).element = element := by
  rcases upgradeAttribute_cases context element key with
    ⟨unchanged, _⟩ | ⟨old, url, upgraded, present, absolute, http, form, _⟩
  · exact unchanged
  · have none := formless old present
    simp [httpsForm?, absolute, http, form] at none

private theorem validateAttributes_of_valid {schemes : SchemeList}
    {todo : List String}
    (valid : ∀ key ∈ todo, ∀ value, element.attribute? key = some value →
      IsValid context schemes value) :
    (validateAttributes context schemes element todo).element = element := by
  induction todo with
  | nil => rfl
  | cons key todo induction =>
      obtain ⟨here, later⟩ := List.forall_mem_cons.mp valid
      have allowed :
          (element.attribute? key).all (isAllowed context schemes) = true := by
        rw [Option.all_eq_true]
        exact fun value present => isAllowed_iff.mpr (here value present)
      have unchanged :
          (validateAttribute context schemes element key).element = element := by
        rw [validateAttribute, if_pos allowed]
      simp only [validateAttributes, unchanged]
      exact induction later

/-- A rule that has nothing to do leaves the element as it is. -/
theorem apply_of_done {rule : Rule} (builtin : rule.isCustom = false)
    (done : rule.Done context element) :
    (rule.apply context element).element = element := by
  cases rule with
  | blankTarget =>
      rw [done_iff_guarantee (by simp) (by simp)] at done
      exact setBlankTarget_of_guarantee done
  | noopener =>
      simp only [apply, setNoopener]
      split
      next anchor =>
        exact Element.setAttribute_of_attribute?_eq_some (done anchor)
      next => rfl
  | httpsLinks =>
      simp only [apply]
      split
      next anchor => exact upgradeAttribute_of_formless (done anchor)
      next => rfl
  | httpsForms =>
      simp only [apply]
      split
      next form => exact upgradeAttribute_of_formless (done form)
      next => rfl
  | validateUri schemes => exact validateAttributes_of_valid done
  | referrerPolicy policy =>
      simp only [apply, setReferrerPolicy]
      split
      next supports =>
        obtain ⟨html, member⟩ := (supportsReferrerPolicy_iff element).mp supports
        apply Element.setAttribute_of_attribute?_eq_some
        rw [← attribute?_referrerPolicy html]
        exact done html member
      next => rfl
  | custom rule => contradiction

/-! ### Rules that have run -/

private theorem httpsForm?_of_isUpgraded {value : String}
    (upgraded : IsUpgraded context value) : httpsForm? context value = none := by
  cases form : httpsForm? context value with
  | none => rfl
  | some text =>
      obtain ⟨url, _, absolute, http, _⟩ := httpsForm?_eq_some form
      exact absurd http (upgraded url absolute)

private theorem formless_upgradeAttribute
    (resolves : ∀ value, element.attribute? key = some value →
      UpgradeResolves context value) :
    Formless context (upgradeAttribute context element key).element key := by
  rcases upgradeAttribute_cases context element key with
    ⟨unchanged, formless⟩ |
      ⟨old, url, upgraded, present, absolute, http, form, changed⟩
  · rw [unchanged]
    exact formless
  · intro value found
    rw [changed, Element.attribute?_setAttribute_self] at found
    cases found
    exact httpsForm?_of_isUpgraded
      (isUpgraded_of_resolves (resolves old present) absolute http form)

/-- A rule that has run has nothing to do on what it made of the element. -/
theorem done_apply {rule : Rule} (builtin : rule.isCustom = false)
    (upgradable : Upgradable context element) :
    rule.Done context (rule.apply context element).element := by
  have changes := changes_apply context rule builtin element
  cases rule with
  | blankTarget =>
      rw [done_iff_guarantee (by simp) (by simp)]
      exact guarantee_setBlankTarget element
  | noopener =>
      rw [done_iff_guarantee (by simp) (by simp)]
      exact guarantee_setNoopener element
  | httpsLinks =>
      intro anchor
      rw [changes.isHtml] at anchor
      simp only [apply, anchor, if_true]
      exact formless_upgradeAttribute (upgradable.resolves "href" (by simp))
  | httpsForms =>
      intro form
      rw [changes.isHtml] at form
      simp only [apply, form, if_true]
      exact formless_upgradeAttribute (upgradable.resolves "action" (by simp))
  | validateUri schemes =>
      exact isValid_validateAttributes upgradable.distinct uriAttributes
  | referrerPolicy policy =>
      rw [done_iff_guarantee (by simp) (by simp)]
      exact guarantee_setReferrerPolicy policy element
  | custom rule => contradiction

/-- Later rules write no link: they keep it or remove it. -/
private theorem Formless.apply {rule : Rule}
    (formless : Formless context element key)
    (builtin : rule.isCustom = false)
    (distinct : element.attributes.keys.Nodup)
    (apart : (∀ changed ∈ touchedAt rule.order,
        Text.lower key ≠ Text.lower changed) ∨ rule.order = 4) :
    Formless context (rule.apply context element).element key := by
  intro value found
  have kept := attribute?_apply_of_not_written context builtin distinct apart
  rw [found] at kept
  rcases kept with removed | same
  · contradiction
  · exact formless value same.symm

/-- Rules that run later leave an earlier one with nothing to do. -/
theorem done_apply_of_order_lt {earlier rule : Rule}
    (builtin : rule.isCustom = false) (later : earlier.order < rule.order)
    (distinct : element.attributes.keys.Nodup)
    (done : earlier.Done context element) :
    earlier.Done context (rule.apply context element).element := by
  have changes := changes_apply context rule builtin element
  have inside := order_lt_of_builtin builtin
  cases earlier with
  | httpsLinks =>
      have apart : ∀ order < 6, 2 < order →
          (∀ changed ∈ touchedAt order,
            Text.lower "href" ≠ Text.lower changed) ∨ order = 4 := by decide
      intro anchor
      rw [changes.isHtml] at anchor
      exact (done anchor).apply builtin distinct (apart _ inside later)
  | httpsForms =>
      have apart : ∀ order < 6, 3 < order →
          (∀ changed ∈ touchedAt order,
            Text.lower "action" ≠ Text.lower changed) ∨ order = 4 := by decide
      intro form
      rw [changes.isHtml] at form
      exact (done form).apply builtin distinct (apart _ inside later)
  | _ =>
      rw [done_iff_guarantee (by simp) (by simp)] at done ⊢
      exact guarantee_apply_of_order_lt builtin later distinct done

/-! ### Running rules twice -/

theorem apply_apply {rule : Rule} (builtin : rule.isCustom = false)
    (upgradable : Upgradable context element) :
    (rule.apply context (rule.apply context element).element).element =
      (rule.apply context element).element :=
  apply_of_done builtin (done_apply builtin upgradable)

private theorem effect_of_done {rules : List Rule}
    (builtin : ∀ rule ∈ rules, rule.isCustom = false)
    (done : ∀ rule ∈ rules, rule.Done context element) :
    RuleSet.effect context rules element = element := by
  induction rules with
  | nil => rfl
  | cons rule rules induction =>
      obtain ⟨first, others⟩ := List.forall_mem_cons.mp builtin
      obtain ⟨here, later⟩ := List.forall_mem_cons.mp done
      rw [RuleSet.effect, List.foldl_cons, apply_of_done first here]
      exact induction others later

/-- Rules in run order change nothing when they run again. -/
theorem effect_effect {rules : List Rule}
    (builtin : ∀ rule ∈ rules, rule.isCustom = false)
    (ordered : rules.Pairwise fun first second => first.order < second.order)
    (upgradable : Upgradable context element) :
    RuleSet.effect context rules (RuleSet.effect context rules element) =
      RuleSet.effect context rules element :=
  effect_of_done builtin
    (holds_effect (fun rule element => rule.Done context element)
      (fun _ builtin _ upgradable => done_apply builtin upgradable)
      (fun _ _ builtin later _ upgradable =>
        done_apply_of_order_lt builtin later upgradable.distinct)
      rules builtin ordered upgradable)

end Rule

end MarkupHarden
