import MarkupHarden.Proofs.Dom.Attributes
import MarkupHarden.Proofs.Rule.RuleSet
import MarkupHarden.Proofs.Url.Hosted

/-!
# What rules guarantee

Each built-in rule establishes a property of the element it runs on.  Rules
that run later touch other attributes or only remove what they find, so the
properties of all rules of a set hold together once the set has run.
-/

namespace MarkupHarden

open Dom (Element)

namespace Rule

/-! ### Guarantees -/

/-- A value that does not resolve to an `http` URL. -/
def IsUpgraded (context : Context) (value : String) : Prop :=
  ∀ url, context.resolver.resolve value = .absolute url → url.scheme ≠ "http"

/-- A value that is relative or resolves to a URL of an allowed scheme. -/
def IsValid (context : Context) (schemes : SchemeList) (value : String) :
    Prop :=
  context.resolver.resolve value = .relative ∨
    ∃ url, context.resolver.resolve value = .absolute url ∧
      schemes.allows url.scheme = true

/-- The HTML elements `a`, `area`, `base` and `form`, and the SVG element
`a`. -/
def TakesTarget (element : Element) : Prop :=
  (element.ns = .html ∧ element.localName ∈ ["a", "area", "base", "form"]) ∨
    (element.ns = .svg ∧ element.localName = "a")

/-- What a built-in rule promises of an element on which it has run. -/
def Guarantee (context : Context) (element : Element) : Rule → Prop
  | blankTarget =>
      (TakesTarget element → element.attribute? "target" = some "_blank") ∧
        (¬TakesTarget element →
          (element.hasAttribute "href" ∨ element.hasAttribute "xlink:href") →
            element.hasAttribute "target" ∨
              element.attribute? "xlink:show" = some "new")
  | noopener =>
      element.isHtml "a" → element.attribute? "rel" = some "noopener noreferrer"
  | httpsLinks =>
      element.isHtml "a" → ∀ value, element.attribute? "href" = some value →
        IsUpgraded context value
  | httpsForms =>
      element.isHtml "form" →
        ∀ value, element.attribute? "action" = some value →
          IsUpgraded context value
  | validateUri schemes =>
      ∀ key ∈ ["href", "action", "xlink:href"],
        ∀ value, element.attribute? key = some value →
          IsValid context schemes value
  | referrerPolicy policy =>
      element.ns = .html →
        element.localName ∈ ["a", "area", "iframe", "img", "link", "script"] →
          element.attribute? "referrerpolicy" = some policy.token
  | custom _ => True

/-! ### What a rule may change -/

/-- The attributes that the built-in rule at a place of the run order writes or
removes. -/
def touchedAt : Nat → List String
  | 0 => ["target", "xlink:show"]
  | 1 => ["rel"]
  | 2 => ["href"]
  | 3 => ["action"]
  | 4 => uriAttributes
  | 5 => ["referrerPolicy"]
  | _ => []

theorem eq_validateUri_of_order {rule : Rule} (place : rule.order = 4) :
    ∃ schemes, rule = validateUri schemes := by
  cases rule <;> simp [order] at place ⊢

/-- The element `after` differs from `before` in the named attributes only. -/
structure Changes (keys : List String) (before after : Element) : Prop where
  ns : after.ns = before.ns
  localName : after.localName = before.localName
  kept : ∀ key, (∀ changed ∈ keys, Text.lower key ≠ Text.lower changed) →
    after.attribute? key = before.attribute? key
  distinct : before.attributes.keys.Nodup → after.attributes.keys.Nodup

namespace Changes

variable {keys : List String} {before after : Element}

theorem refl (keys : List String) (element : Element) :
    Changes keys element element :=
  ⟨rfl, rfl, fun _ _ => rfl, id⟩

theorem trans {last : Element} (first : Changes keys before after)
    (second : Changes keys after last) : Changes keys before last :=
  ⟨second.ns.trans first.ns, second.localName.trans first.localName,
    fun key apart => (second.kept key apart).trans (first.kept key apart),
    fun distinct => second.distinct (first.distinct distinct)⟩

theorem setAttribute {key : String} (member : key ∈ keys) (element : Element)
    (value : String) : Changes keys element (element.setAttribute key value) :=
  ⟨rfl, rfl,
    fun _ apart => Element.attribute?_setAttribute_of_ne (apart key member) _,
    fun distinct => Dom.Attributes.nodup_keys_update distinct _ _⟩

theorem removeAttribute {key : String} (member : key ∈ keys)
    (element : Element) :
    Changes keys element (element.removeAttribute key).2 :=
  ⟨rfl, rfl,
    fun _ apart => Element.attribute?_removeAttribute_of_ne (apart key member),
    fun distinct => Dom.Attributes.nodup_keys_erase distinct _⟩

theorem isHtml (changes : Changes keys before after) (name : String) :
    after.isHtml name = before.isHtml name := by
  rw [Element.isHtml, changes.ns, changes.localName, Element.isHtml]

theorem takesTarget (changes : Changes keys before after) :
    TakesTarget after = TakesTarget before := by
  rw [TakesTarget, changes.ns, changes.localName, TakesTarget]

end Changes

variable {context : Context}

private theorem changes_upgradeAttribute (context : Context)
    (element : Element) (key : String) :
    Changes [key] element (upgradeAttribute context element key).element := by
  unfold upgradeAttribute
  split
  · exact .refl _ _
  · exact .setAttribute List.mem_cons_self _ _

theorem changes_validateAttribute (context : Context)
    {keys : List String} {key : String} (member : key ∈ keys)
    (schemes : SchemeList) (element : Element) :
    Changes keys element
      (validateAttribute context schemes element key).element := by
  unfold validateAttribute
  split
  · exact .refl _ _
  · exact .removeAttribute member _

private theorem changes_validateAttributes {keys : List String}
    (schemes : SchemeList) (element : Element) (todo : List String)
    (members : ∀ key ∈ todo, key ∈ keys) :
    Changes keys element
      (validateAttributes context schemes element todo).element := by
  induction todo generalizing element with
  | nil => exact .refl _ _
  | cons key todo induction =>
      have first := changes_validateAttribute context
        (members key List.mem_cons_self) schemes element
      exact first.trans (induction _ fun other member =>
        members other (List.mem_cons_of_mem _ member))

private theorem changes_setBlankTarget (element : Element) :
    Changes ["target", "xlink:show"] element (setBlankTarget element) := by
  unfold setBlankTarget
  extract_lets targeted
  have first : Changes ["target", "xlink:show"] element targeted := by
    unfold targeted
    split
    · exact .setAttribute (by simp) _ _
    · exact .refl _ _
  split
  · exact first.trans (.setAttribute (by simp) _ _)
  · exact first

/-- A built-in rule changes nothing but the attributes it is meant for. -/
theorem changes_apply (context : Context) (rule : Rule)
    (builtin : rule.isCustom = false) (element : Element) :
    Changes (touchedAt rule.order) element
      (rule.apply context element).element := by
  cases rule with
  | blankTarget => exact changes_setBlankTarget element
  | noopener =>
      simp only [apply, setNoopener]
      split
      · exact .setAttribute List.mem_cons_self _ _
      · exact .refl _ _
  | httpsLinks =>
      simp only [apply]
      split
      · exact changes_upgradeAttribute context element "href"
      · exact .refl _ _
  | httpsForms =>
      simp only [apply]
      split
      · exact changes_upgradeAttribute context element "action"
      · exact .refl _ _
  | validateUri schemes =>
      exact changes_validateAttributes schemes element _ fun _ member => member
  | referrerPolicy policy =>
      simp only [apply, setReferrerPolicy]
      split
      · exact .setAttribute List.mem_cons_self _ _
      · exact .refl _ _
  | custom rule => contradiction

/-- Built-in rules keep the name of an element. -/
theorem effect_keeps_name (context : Context) {rules : List Rule}
    (builtin : ∀ rule ∈ rules, rule.isCustom = false) (element : Element) :
    (RuleSet.effect context rules element).ns = element.ns ∧
      (RuleSet.effect context rules element).localName = element.localName := by
  induction rules generalizing element with
  | nil => exact ⟨rfl, rfl⟩
  | cons rule rules induction =>
      have changes := changes_apply context rule
        (builtin rule List.mem_cons_self) element
      obtain ⟨ns, localName⟩ := induction
        (fun other member => builtin other (List.mem_cons_of_mem _ member))
        (rule.apply context element).element
      exact ⟨ns.trans changes.ns, localName.trans changes.localName⟩

/-! ### A rule establishes its own guarantee -/

/-- Switching the `http` URL of a value to `https` gives an absolute `https`
URL again. -/
def UpgradeResolves (context : Context) (value : String) : Prop :=
  ∀ url upgraded, context.resolver.resolve value = .absolute url →
    url.scheme = "http" → url.withSpecialScheme? "https" = some upgraded →
      ∃ again, context.resolver.resolve upgraded.text = .absolute again ∧
        again.scheme = "https"

/-- What the rules need of an element and of the base URL. -/
structure Upgradable (context : Context) (element : Element) : Prop where
  distinct : element.attributes.keys.Nodup
  resolves : ∀ key ∈ ["href", "action"], ∀ value,
    element.attribute? key = some value → UpgradeResolves context value

/-- The base URL, if there is one, has a host. -/
def Context.HasHostedBase (context : Context) : Prop :=
  ∀ base, context.resolver.base = some base → base.Hosted

theorem Context.hasHostedBase_of_none : ({} : Context).HasHostedBase :=
  fun _ impossible => by contradiction

/-- A base URL that is given as text has a host. -/
theorem Context.hasHostedBase_of_ofBase {text : String}
    {resolver : Url.Resolver}
    (made : Url.Resolver.ofBase text = .ok resolver) :
    Context.HasHostedBase { resolver } :=
  fun _ => Url.Resolver.hosted_of_ofBase made

theorem supportsTarget_iff (element : Element) :
    supportsTarget element = true ↔ TakesTarget element := by
  unfold supportsTarget TakesTarget
  cases element.ns <;> simp

theorem guarantee_setBlankTarget (element : Element) :
    blankTarget.Guarantee context (setBlankTarget element) := by
  have changes := changes_setBlankTarget element
  rw [Guarantee, changes.takesTarget, ← supportsTarget_iff]
  unfold setBlankTarget
  cases supports : supportsTarget element with
  | true =>
      have written := element.attribute?_setAttribute_self "target" "_blank"
      simp [Element.hasAttribute_eq, written]
  | false =>
      simp only [Bool.false_eq_true, if_false, false_implies, true_and]
      cases hinted : !element.hasAttribute "target" &&
          (element.hasAttribute "xlink:href" || element.hasAttribute "href") with
      | true =>
          intro _ _
          exact Or.inr (Element.attribute?_setAttribute_self _ _ _)
      | false =>
          simp only [Bool.false_eq_true, if_false]
          intro _ linked
          left
          rcases linked with href | xlink
          · simpa [href] using hinted
          · simpa [xlink] using hinted

theorem guarantee_setNoopener (element : Element) :
    noopener.Guarantee context (setNoopener element) := by
  have changes := changes_apply context noopener rfl element
  intro after
  have anchor : element.isHtml "a" = true := (changes.isHtml "a").symm.trans after
  simp only [setNoopener, anchor, if_true]
  exact Element.attribute?_setAttribute_self _ _ _

/-- In HTML the two spellings of the attribute are one. -/
theorem attribute?_referrerPolicy {element : Element}
    (html : element.ns = .html) :
    element.attribute? "referrerpolicy" =
      element.attribute? "referrerPolicy" := by
  have sameKey : element.attributeKey "referrerpolicy" =
      element.attributeKey "referrerPolicy" := by
    simp only [Element.attributeKey, html]
    decide
  rw [Element.attribute?, sameKey, Element.attribute?]

theorem supportsReferrerPolicy_iff (element : Element) :
    supportsReferrerPolicy element = true ↔ element.ns = .html ∧
      element.localName ∈
        ["a", "area", "iframe", "img", "link", "script"] := by
  simp [supportsReferrerPolicy]

theorem guarantee_setReferrerPolicy (policy : ReferrerPolicy)
    (element : Element) :
    (referrerPolicy policy).Guarantee context
      (setReferrerPolicy policy element) := by
  have changes := changes_apply context (referrerPolicy policy) rfl element
  intro html member
  have supports : supportsReferrerPolicy element = true :=
    (supportsReferrerPolicy_iff element).mpr
      ⟨changes.ns.symm.trans html, changes.localName.symm ▸ member⟩
  rw [attribute?_referrerPolicy html]
  simp only [setReferrerPolicy, supports, if_true]
  exact Element.attribute?_setAttribute_self _ _ _

theorem resolve_eq_absolute_iff {resolver : Url.Resolver} {value : String}
    {url : Url} :
    resolver.resolve value = .absolute url ↔
      Url.parse resolver.base value = .ok url := by
  unfold Url.Resolver.resolve
  split <;> simp_all

theorem kind_of_http {url : Url} (http : url.scheme = "http") :
    url.kind = .special := by
  rw [Url.kind, http]
  decide

/-- A value with an `https` form resolves to the `http` URL that it is the
form of. -/
theorem httpsForm?_eq_some {value text : String}
    (form : httpsForm? context value = some text) :
    ∃ url upgraded, context.resolver.resolve value = .absolute url ∧
      url.scheme = "http" ∧ url.withSpecialScheme? "https" = some upgraded ∧
        upgraded.text = text := by
  unfold httpsForm? at form
  split at form
  next url absolute =>
    split at form
    next http =>
      obtain ⟨upgraded, upgradedEq, textEq⟩ := Option.map_eq_some_iff.mp form
      exact ⟨url, upgraded, absolute, http, upgradedEq, textEq⟩
    next => contradiction
  all_goals contradiction

/-- An upgrade leaves the element alone unless the attribute holds an `http`
URL that has an `https` form. -/
theorem upgradeAttribute_cases (context : Context) (element : Element)
    (key : String) :
    ((upgradeAttribute context element key).element = element ∧
        ∀ value, element.attribute? key = some value →
          httpsForm? context value = none) ∨
      ∃ old url upgraded, element.attribute? key = some old ∧
        context.resolver.resolve old = .absolute url ∧ url.scheme = "http" ∧
          url.withSpecialScheme? "https" = some upgraded ∧
            (upgradeAttribute context element key).element =
              element.setAttribute key upgraded.text := by
  unfold upgradeAttribute
  split
  next none =>
    refine Or.inl ⟨rfl, ?_⟩
    intro value found
    rw [found] at none
    exact none
  next text form =>
    right
    obtain ⟨old, present, form⟩ := Option.bind_eq_some_iff.mp form
    obtain ⟨url, upgraded, absolute, http, upgradedEq, rfl⟩ :=
      httpsForm?_eq_some form
    exact ⟨old, url, upgraded, present, absolute, http, upgradedEq, rfl⟩

/-- The text written by an upgrade needs no further one. -/
theorem isUpgraded_of_resolves {value : String} {url upgraded : Url}
    (resolves : UpgradeResolves context value)
    (absolute : context.resolver.resolve value = .absolute url)
    (http : url.scheme = "http")
    (upgradedEq : url.withSpecialScheme? "https" = some upgraded) :
    IsUpgraded context upgraded.text := by
  obtain ⟨again, againAbsolute, https⟩ :=
    resolves url upgraded absolute http upgradedEq
  intro other found
  rw [againAbsolute] at found
  cases found
  rw [https]
  decide

theorem isUpgraded_upgradeAttribute {element : Element} {key : String}
    (hosted : context.HasHostedBase)
    (resolves : ∀ value, element.attribute? key = some value →
      UpgradeResolves context value) :
    ∀ value,
      (upgradeAttribute context element key).element.attribute? key =
        some value → IsUpgraded context value := by
  intro value found
  rcases upgradeAttribute_cases context element key with
    ⟨unchanged, formless⟩ |
      ⟨old, url, upgraded, present, absolute, http, upgradedEq, changed⟩
  · rw [unchanged] at found
    intro url absolute http
    have read := resolve_eq_absolute_iff.mp absolute
    obtain ⟨upgraded, upgradedEq⟩ :=
      (Url.hosted_of_parse hosted read).withSpecialScheme? (kind_of_http http)
        "https"
    have form := formless value found
    simp [httpsForm?, absolute, http, upgradedEq] at form
  · rw [changed, Element.attribute?_setAttribute_self] at found
    cases found
    exact isUpgraded_of_resolves (resolves old present) absolute http upgradedEq

theorem isAllowed_iff {schemes : SchemeList} {value : String} :
    isAllowed context schemes value = true ↔ IsValid context schemes value := by
  unfold isAllowed IsValid
  split <;> simp_all

private theorem isValid_validateAttribute {schemes : SchemeList}
    {element : Element} (distinct : element.attributes.keys.Nodup)
    (key : String) :
    ∀ value,
      (validateAttribute context schemes element key).element.attribute? key =
        some value → IsValid context schemes value := by
  intro value found
  unfold validateAttribute at found
  split at found
  next allowed =>
    rw [found, Option.all_some] at allowed
    exact isAllowed_iff.mp allowed
  next =>
    rw [Element.attribute?_removeAttribute_self distinct key] at found
    contradiction

/-- Validation keeps an attribute or removes it. -/
theorem attribute?_validateAttributes {schemes : SchemeList}
    {element : Element} (distinct : element.attributes.keys.Nodup)
    (todo : List String) (key : String) :
    (validateAttributes context schemes element todo).element.attribute? key =
        none ∨
      (validateAttributes context schemes element todo).element.attribute?
        key = element.attribute? key := by
  induction todo generalizing element with
  | nil => exact Or.inr rfl
  | cons first todo induction =>
      have changes := changes_validateAttribute context
        (List.mem_singleton.mpr rfl : first ∈ [first]) schemes element
      have once :
          (validateAttribute context schemes element first).element.attribute?
              key = none ∨
            (validateAttribute context schemes element
              first).element.attribute? key = element.attribute? key := by
        unfold validateAttribute
        split
        · exact Or.inr rfl
        · exact Element.attribute?_removeAttribute_eq_or distinct key first
      rcases induction (changes.distinct distinct) with removed | same
      · exact Or.inl removed
      · rcases once with removed | kept
        · exact Or.inl (same.trans removed)
        · exact Or.inr (same.trans kept)

theorem isValid_validateAttributes {schemes : SchemeList} {element : Element}
    (distinct : element.attributes.keys.Nodup) (todo : List String) :
    ∀ key ∈ todo, ∀ value,
      (validateAttributes context schemes element todo).element.attribute?
        key = some value → IsValid context schemes value := by
  induction todo generalizing element with
  | nil =>
      intro key member
      contradiction
  | cons first todo induction =>
      have changes := changes_validateAttribute context
        (List.mem_singleton.mpr rfl : first ∈ [first]) schemes element
      have stillDistinct := changes.distinct distinct
      intro key member value found
      rcases List.mem_cons.mp member with rfl | later
      · rcases attribute?_validateAttributes stillDistinct todo key with
          removed | same
        · rw [validateAttributes] at found
          rw [removed] at found
          contradiction
        · rw [validateAttributes, same] at found
          exact isValid_validateAttribute distinct key value found
      · exact induction stillDistinct key later value found

/-- A built-in rule does what it promises. -/
theorem guarantee_apply (rule : Rule) (hosted : context.HasHostedBase)
    {element : Element} (upgradable : Upgradable context element) :
    rule.Guarantee context (rule.apply context element).element := by
  cases rule with
  | blankTarget => exact guarantee_setBlankTarget element
  | noopener => exact guarantee_setNoopener element
  | httpsLinks =>
      have changes := changes_apply context httpsLinks rfl element
      intro anchor
      rw [changes.isHtml] at anchor
      simp only [apply, anchor, if_true]
      exact isUpgraded_upgradeAttribute hosted
        (upgradable.resolves "href" (by simp))
  | httpsForms =>
      have changes := changes_apply context httpsForms rfl element
      intro form
      rw [changes.isHtml] at form
      simp only [apply, form, if_true]
      exact isUpgraded_upgradeAttribute hosted
        (upgradable.resolves "action" (by simp))
  | validateUri schemes =>
      exact isValid_validateAttributes upgradable.distinct uriAttributes
  | referrerPolicy policy => exact guarantee_setReferrerPolicy policy element
  | custom rule => trivial

/-! ### Later rules keep the guarantees of earlier ones -/

/-- An attribute that a rule does not write is kept or removed. -/
theorem attribute?_apply_of_not_written (context : Context) {rule : Rule}
    (builtin : rule.isCustom = false) {element : Element}
    (distinct : element.attributes.keys.Nodup) {key : String}
    (apart : (∀ changed ∈ touchedAt rule.order,
        Text.lower key ≠ Text.lower changed) ∨ rule.order = 4) :
    (rule.apply context element).element.attribute? key = none ∨
      (rule.apply context element).element.attribute? key =
        element.attribute? key := by
  rcases apart with apart | validates
  · exact Or.inr ((changes_apply context rule builtin element).kept key apart)
  · obtain ⟨schemes, rfl⟩ := eq_validateUri_of_order validates
    exact attribute?_validateAttributes distinct _ key

private theorem hasAttribute_upgradeAttribute (context : Context)
    {element : Element} {key : String} :
    (upgradeAttribute context element key).element.hasAttribute key =
      element.hasAttribute key := by
  unfold upgradeAttribute
  split
  · rfl
  next value found =>
    obtain ⟨old, present, _⟩ := Option.bind_eq_some_iff.mp found
    rw [Element.hasAttribute_eq, Element.attribute?_setAttribute_self,
      Element.hasAttribute_eq, present]
    rfl

/-- Rules other than `blankTarget` add no link. -/
theorem hasAttribute_of_apply {rule : Rule} (builtin : rule.isCustom = false)
    (later : blankTarget.order < rule.order) {element : Element}
    (distinct : element.attributes.keys.Nodup) {key : String}
    (link : key = "href" ∨ key = "xlink:href")
    (present : (rule.apply context element).element.hasAttribute key = true) :
    element.hasAttribute key = true := by
  have of_not_written : ((∀ changed ∈ touchedAt rule.order,
      Text.lower key ≠ Text.lower changed) ∨ rule.order = 4) →
        element.hasAttribute key = true := by
    intro apart
    rcases attribute?_apply_of_not_written context builtin distinct
      apart with removed | same
    · rw [Element.hasAttribute_eq, removed] at present
      contradiction
    · rw [Element.hasAttribute_eq, ← same]
      exact present
  have inside := order_lt_of_builtin builtin
  rcases link with rfl | rfl
  · by_cases upgrades : rule = httpsLinks
    · subst rule
      simp only [apply] at present
      split at present
      · rw [← hasAttribute_upgradeAttribute context]
        exact present
      · exact present
    · have apart : ∀ order < 6, 0 < order → order ≠ 2 →
          (∀ changed ∈ touchedAt order,
            Text.lower "href" ≠ Text.lower changed) ∨ order = 4 := by decide
      refine of_not_written (apart _ inside later ?_)
      cases rule <;> simp [order] at upgrades ⊢
  · have apart : ∀ order < 6, 0 < order →
        (∀ changed ∈ touchedAt order,
          Text.lower "xlink:href" ≠ Text.lower changed) ∨ order = 4 := by
      decide
    exact of_not_written (apart _ inside later)

/-- No rule undoes what an earlier one guarantees. -/
theorem guarantee_apply_of_order_lt {earlier rule : Rule}
    (builtin : rule.isCustom = false) (later : earlier.order < rule.order)
    {element : Element} (distinct : element.attributes.keys.Nodup)
    (holds : earlier.Guarantee context element) :
    earlier.Guarantee context (rule.apply context element).element := by
  have changes := changes_apply context rule builtin element
  have inside := order_lt_of_builtin builtin
  cases earlier with
  | blankTarget =>
      have apart : ∀ order < 6, 0 < order → ∀ changed ∈ touchedAt order,
          Text.lower "target" ≠ Text.lower changed ∧
            Text.lower "xlink:show" ≠ Text.lower changed := by decide
      have target := changes.kept "target" fun changed member =>
        (apart _ inside later changed member).1
      have hint := changes.kept "xlink:show" fun changed member =>
        (apart _ inside later changed member).2
      have present : (rule.apply context element).element.hasAttribute
          "target" = element.hasAttribute "target" := by
        rw [Element.hasAttribute_eq, target, Element.hasAttribute_eq]
      rw [Guarantee, changes.takesTarget, target, present, hint]
      refine ⟨holds.1, fun other linked => holds.2 other ?_⟩
      rcases linked with href | xlink
      · exact Or.inl (hasAttribute_of_apply builtin later distinct (Or.inl rfl)
          href)
      · exact Or.inr (hasAttribute_of_apply builtin later distinct (Or.inr rfl)
          xlink)
  | noopener =>
      have apart : ∀ order < 6, 1 < order → ∀ changed ∈ touchedAt order,
          Text.lower "rel" ≠ Text.lower changed := by decide
      intro anchor
      rw [changes.isHtml] at anchor
      rw [← holds anchor]
      exact changes.kept "rel" (apart _ inside later)
  | httpsLinks =>
      have apart : ∀ order < 6, 2 < order →
          (∀ changed ∈ touchedAt order,
            Text.lower "href" ≠ Text.lower changed) ∨ order = 4 := by decide
      intro anchor value found
      rw [changes.isHtml] at anchor
      have kept := attribute?_apply_of_not_written context builtin
        distinct (apart _ inside later)
      rw [found] at kept
      rcases kept with removed | same
      · contradiction
      · exact holds anchor value same.symm
  | httpsForms =>
      have apart : ∀ order < 6, 3 < order →
          (∀ changed ∈ touchedAt order,
            Text.lower "action" ≠ Text.lower changed) ∨ order = 4 := by decide
      intro form value found
      rw [changes.isHtml] at form
      have kept := attribute?_apply_of_not_written context builtin
        distinct (apart _ inside later)
      rw [found] at kept
      rcases kept with removed | same
      · contradiction
      · exact holds form value same.symm
  | validateUri schemes =>
      have apart : ∀ order < 6, 4 < order →
          ∀ key ∈ ["href", "action", "xlink:href"],
            ∀ changed ∈ touchedAt order,
              Text.lower key ≠ Text.lower changed := by decide
      intro key member value found
      refine holds key member value ?_
      rw [← found]
      exact (changes.kept key (apart _ inside later key member)).symm
  | referrerPolicy policy =>
      exact absurd inside (Nat.not_lt.mpr later)
  | custom other => trivial

/-! ### All rules of a set -/

private theorem upgradeResolves_upgradeAttribute {element : Element}
    {key : String}
    (resolves : ∀ value, element.attribute? key = some value →
      UpgradeResolves context value) :
    ∀ value,
      (upgradeAttribute context element key).element.attribute? key =
        some value → UpgradeResolves context value := by
  intro value found
  rcases upgradeAttribute_cases context element key with
    ⟨unchanged, _⟩ |
      ⟨old, url, upgraded, present, absolute, http, upgradedEq, changed⟩
  · rw [unchanged] at found
    exact resolves value found
  · rw [changed, Element.attribute?_setAttribute_self] at found
    cases found
    intro other _ otherAbsolute otherHttp _
    exact absurd otherHttp (isUpgraded_of_resolves (resolves old present)
      absolute http upgradedEq other otherAbsolute)

private theorem upgradable_upgradeAttribute {element : Element}
    {key : String} (member : key ∈ ["href", "action"])
    (upgradable : Upgradable context element) :
    Upgradable context (upgradeAttribute context element key).element := by
  have changes := changes_upgradeAttribute context element key
  refine ⟨changes.distinct upgradable.distinct, ?_⟩
  intro other otherMember value found
  by_cases same : other = key
  · subst other
    exact upgradeResolves_upgradeAttribute
      (upgradable.resolves key member) value found
  · have apart : ∀ left ∈ ["href", "action"], ∀ right ∈ ["href", "action"],
        left ≠ right → Text.lower left ≠ Text.lower right := by decide
    have kept := changes.kept other fun changed isKey => by
      rw [List.mem_singleton.mp isKey]
      exact apart other otherMember key member same
    rw [kept] at found
    exact upgradable.resolves other otherMember value found

/-- Built-in rules keep what the others need. -/
theorem Upgradable.apply {element : Element} {rule : Rule}
    (builtin : rule.isCustom = false)
    (upgradable : Upgradable context element) :
    Upgradable context (rule.apply context element).element := by
  have changes := changes_apply context rule builtin element
  have inside := order_lt_of_builtin builtin
  by_cases upgrades : rule = httpsLinks ∨ rule = httpsForms
  · rcases upgrades with rfl | rfl
    · simp only [Rule.apply]
      split
      · exact upgradable_upgradeAttribute (by decide) upgradable
      · exact upgradable
    · simp only [Rule.apply]
      split
      · exact upgradable_upgradeAttribute (by decide) upgradable
      · exact upgradable
  · refine ⟨changes.distinct upgradable.distinct, ?_⟩
    intro key member value found
    have apart : ∀ order < 6, order ≠ 2 → order ≠ 3 →
        ∀ key ∈ ["href", "action"], (∀ changed ∈ touchedAt order,
          Text.lower key ≠ Text.lower changed) ∨ order = 4 := by decide
    have kept := attribute?_apply_of_not_written context builtin
      upgradable.distinct
      (apart _ inside (by cases rule <;> simp [order] at upgrades ⊢)
        (by cases rule <;> simp [order] at upgrades ⊢) key member)
    rw [found] at kept
    rcases kept with removed | same
    · contradiction
    · exact upgradable.resolves key member value same.symm

/-- What a rule establishes and no later one undoes holds of all rules of a
list at once, when they have run in order. -/
theorem holds_effect (Holds : Rule → Element → Prop)
    (established : ∀ rule : Rule, rule.isCustom = false → ∀ element,
      Upgradable context element →
        Holds rule (rule.apply context element).element)
    (kept : ∀ earlier rule : Rule, rule.isCustom = false →
      earlier.order < rule.order → ∀ element, Upgradable context element →
        Holds earlier element →
          Holds earlier (rule.apply context element).element)
    (rules : List Rule) (builtin : ∀ rule ∈ rules, rule.isCustom = false)
    (ordered : rules.Pairwise fun first second => first.order < second.order)
    {element : Element} (upgradable : Upgradable context element) :
    ∀ rule ∈ rules, Holds rule (RuleSet.effect context rules element) := by
  -- Whatever holds already, rules that all run later keep it.
  have stays : ∀ (earlier : Rule) (rules : List Rule),
      (∀ rule ∈ rules, rule.isCustom = false) →
      (∀ rule ∈ rules, earlier.order < rule.order) → ∀ element,
        Upgradable context element → Holds earlier element →
          Holds earlier (RuleSet.effect context rules element) := by
    intro earlier rules builtin later
    induction rules with
    | nil => exact fun _ _ holds => holds
    | cons rule rules induction =>
        intro element upgradable holds
        obtain ⟨first, others⟩ := List.forall_mem_cons.mp builtin
        obtain ⟨after, allAfter⟩ := List.forall_mem_cons.mp later
        exact induction others allAfter _ (upgradable.apply first)
          (kept earlier rule first after element upgradable holds)
  induction rules generalizing element with
  | nil => exact List.forall_mem_nil _
  | cons first rules induction =>
      obtain ⟨firstBuiltin, others⟩ := List.forall_mem_cons.mp builtin
      obtain ⟨later, ordered⟩ := List.pairwise_cons.mp ordered
      have applied := upgradable.apply firstBuiltin
      exact List.forall_mem_cons.mpr
        ⟨stays first rules others later _ applied
          (established first firstBuiltin element upgradable),
          induction others ordered applied⟩

/-- Once built-in rules have run in order, all their guarantees hold. -/
theorem guarantee_effect (hosted : context.HasHostedBase)
    (rules : List Rule) (builtin : ∀ rule ∈ rules, rule.isCustom = false)
    (ordered : rules.Pairwise fun first second => first.order < second.order)
    {element : Element} (upgradable : Upgradable context element) :
    ∀ rule ∈ rules,
      rule.Guarantee context (RuleSet.effect context rules element) :=
  holds_effect (fun rule element => rule.Guarantee context element)
    (fun rule _ _ upgradable => guarantee_apply rule hosted upgradable)
    (fun _ _ builtin later _ upgradable =>
      guarantee_apply_of_order_lt builtin later upgradable.distinct)
    rules builtin ordered upgradable

end Rule

end MarkupHarden
