import Mathlib.Data.List.Nodup
import MarkupHarden.Proofs.Rule.Guarantee

/-!
# The order of the built-in rules

What a built-in rule makes of an attribute depends on the value of this
attribute alone, with one exception: `blankTarget` looks at the links of an
element before it writes `xlink:show`.  For every other attribute a run of the
rules is a fold over its values, and the steps of this fold commute.
-/

namespace MarkupHarden

open Dom (Element)

namespace Rule

variable {context : Context} {element : Element} {key : String}

/-! ### What a rule makes of one attribute -/

/-- The `https` form of a value that has one. -/
def upgradeValue (context : Context) (old : Option String) : Option String :=
  old.map fun value => (httpsForm? context value).getD value

/-- What a built-in rule makes of the value that an element has under a key
other than `xlink:show`. -/
def revise (context : Context) (element : Element) (key : String)
    (old : Option String) : Rule → Option String
  | blankTarget =>
      if key = "target" ∧ supportsTarget element then some "_blank" else old
  | noopener =>
      if key = "rel" ∧ element.isHtml "a" then some "noopener noreferrer"
      else old
  | httpsLinks =>
      if key = "href" ∧ element.isHtml "a" then upgradeValue context old
      else old
  | httpsForms =>
      if key = "action" ∧ element.isHtml "form" then upgradeValue context old
      else old
  | validateUri schemes =>
      if key ∈ uriAttributes then old.filter (isAllowed context schemes)
      else old
  | referrerPolicy policy =>
      if key = "referrerpolicy" ∧ supportsReferrerPolicy element then
        some policy.token
      else old
  | custom _ => old

theorem attributeKey_of_lower {name : String}
    (folded : Text.lower name = name) (element : Element) :
    element.attributeKey name = name := by
  unfold Element.attributeKey
  split
  · exact folded
  all_goals rfl

private theorem find?_setAttribute (element : Element)
    (name value key : String) :
    (element.setAttribute name value).attributes.find? key =
      if key = element.attributeKey name then some value
      else element.attributes.find? key := by
  split
  next same => rw [same]; exact Dom.Attributes.find?_update_self _ _ _
  next different => exact Dom.Attributes.find?_update_of_ne different _ _

private theorem find?_upgradeAttribute (context : Context) (element : Element)
    (name key : String) :
    (upgradeAttribute context element name).element.attributes.find? key =
      if key = element.attributeKey name then
        upgradeValue context (element.attributes.find? key)
      else element.attributes.find? key := by
  rcases upgradeAttribute_cases context element name with
    ⟨unchanged, formless⟩ |
      ⟨old, url, upgraded, present, absolute, http, upgradedEq, changed⟩
  · rw [unchanged]
    split
    next same =>
      subst same
      cases present : element.attributes.find? (element.attributeKey name) with
      | none => rfl
      | some value => simp [upgradeValue, formless value present]
    next => rfl
  · rw [changed, find?_setAttribute]
    split
    next same =>
      subst same
      have form : httpsForm? context old = some upgraded.text := by
        simp [httpsForm?, absolute, http, upgradedEq]
      have present : element.attributes.find? (element.attributeKey name) =
        some old := present
      simp [upgradeValue, present, form]
    next => rfl

private theorem find?_validateAttribute (context : Context)
    (schemes : SchemeList) (distinct : element.attributes.keys.Nodup)
    (name key : String) :
    (validateAttribute context schemes element name).element.attributes.find?
        key =
      if key = element.attributeKey name then
        (element.attributes.find? key).filter (isAllowed context schemes)
      else element.attributes.find? key := by
  unfold validateAttribute
  split
  next allowed =>
    split
    next same =>
      subst same
      unfold Element.attribute? at allowed
      cases present : element.attributes.find? (element.attributeKey name) with
      | none => rfl
      | some value =>
          rw [present, Option.all_some] at allowed
          exact (Option.filter_some_pos allowed).symm
    next => rfl
  next refused =>
    split
    next same =>
      subst same
      unfold Element.attribute? at refused
      refine (Dom.Attributes.find?_erase_self distinct).trans ?_
      cases present : element.attributes.find? (element.attributeKey name) with
      | none => rfl
      | some value =>
          rw [present, Option.all_some, Bool.not_eq_true] at refused
          exact (Option.filter_some_neg refused).symm
    next different =>
      exact Dom.Attributes.find?_erase_of_ne different _

private theorem find?_setBlankTarget (element : Element)
    (notHint : key ≠ "xlink:show") :
    (setBlankTarget element).attributes.find? key =
      if key = "target" ∧ supportsTarget element then some "_blank"
      else element.attributes.find? key := by
  have notHint (other : Element) : key ≠ other.attributeKey "xlink:show" := by
    rw [attributeKey_of_lower (by decide) other]
    exact notHint
  have targetKey : element.attributeKey "target" = "target" :=
    attributeKey_of_lower (by decide) element
  unfold setBlankTarget
  extract_lets targeted
  have first : targeted.attributes.find? key =
      if key = "target" ∧ supportsTarget element then some "_blank"
      else element.attributes.find? key := by
    unfold targeted
    split
    next supports => rw [find?_setAttribute, targetKey]; simp [supports]
    next not => simp [not]
  split
  · rw [find?_setAttribute, if_neg (notHint _)]
    exact first
  · exact first

private theorem find?_validateAttributes (context : Context)
    (schemes : SchemeList) (distinct : element.attributes.keys.Nodup)
    (key : String) {todo : List String}
    (folded : ∀ name ∈ todo, Text.lower name = name) :
    (validateAttributes context schemes element todo).element.attributes.find?
        key =
      if key ∈ todo then
        (element.attributes.find? key).filter (isAllowed context schemes)
      else element.attributes.find? key := by
  induction todo generalizing element with
  | nil => rfl
  | cons name todo induction =>
      have nameKey := attributeKey_of_lower (folded name List.mem_cons_self)
        element
      have once := find?_validateAttribute context schemes distinct name key
      have stillDistinct := (changes_validateAttribute context
        (List.mem_singleton_self name) schemes element).distinct distinct
      rw [validateAttributes, induction stillDistinct fun other member =>
        folded other (List.mem_cons_of_mem _ member), once, nameKey]
      by_cases same : key = name <;> by_cases later : key ∈ todo <;>
        simp [same, later, Option.filter_filter]

/-- A built-in rule turns the value under a key into its revised form. -/
theorem find?_apply {rule : Rule} (builtin : rule.isCustom = false)
    (distinct : element.attributes.keys.Nodup) (notHint : key ≠ "xlink:show") :
    (rule.apply context element).element.attributes.find? key =
      revise context element key (element.attributes.find? key) rule := by
  cases rule with
  | blankTarget => exact find?_setBlankTarget element notHint
  | noopener =>
      have relKey : element.attributeKey "rel" = "rel" :=
        attributeKey_of_lower (by decide) element
      simp only [apply, setNoopener, revise]
      split
      next anchor => rw [find?_setAttribute, relKey]; simp [anchor]
      next other => simp [other]
  | httpsLinks =>
      have hrefKey : element.attributeKey "href" = "href" :=
        attributeKey_of_lower (by decide) element
      simp only [apply, revise]
      split
      next anchor => rw [find?_upgradeAttribute, hrefKey]; simp [anchor]
      next other => simp [other]
  | httpsForms =>
      have actionKey : element.attributeKey "action" = "action" :=
        attributeKey_of_lower (by decide) element
      simp only [apply, revise]
      split
      next form => rw [find?_upgradeAttribute, actionKey]; simp [form]
      next other => simp [other]
  | validateUri schemes =>
      exact find?_validateAttributes context schemes distinct key (by decide)
  | referrerPolicy policy =>
      simp only [apply, setReferrerPolicy, revise]
      split
      next supports =>
        have policyKey :
            element.attributeKey "referrerPolicy" = "referrerpolicy" := by
          have html : element.ns = .html := by
            simp only [supportsReferrerPolicy, Bool.and_eq_true,
              decide_eq_true_eq] at supports
            exact supports.1
          simp only [Element.attributeKey, html]
          decide
        rw [find?_setAttribute, policyKey]
        simp [supports]
      next other => simp [other]
  | custom rule => contradiction

/-- The revision looks at nothing of the element but its name. -/
private theorem revise_congr {other : Element} (ns : other.ns = element.ns)
    (localName : other.localName = element.localName) (old : Option String)
    (rule : Rule) :
    revise context other key old rule = revise context element key old rule := by
  cases rule <;>
    simp [revise, Element.isHtml, supportsTarget, supportsReferrerPolicy, ns,
      localName]

/-- What built-in rules leave under a key is the fold of their revisions. -/
theorem find?_effect {rules : List Rule}
    (builtin : ∀ rule ∈ rules, rule.isCustom = false)
    (distinct : element.attributes.keys.Nodup) (notHint : key ≠ "xlink:show") :
    (RuleSet.effect context rules element).attributes.find? key =
      rules.foldl (revise context element key)
        (element.attributes.find? key) := by
  induction rules generalizing element with
  | nil => rfl
  | cons rule rules induction =>
      have ruleBuiltin := builtin rule List.mem_cons_self
      have changes := changes_apply context rule ruleBuiltin element
      have same : revise context (rule.apply context element).element key =
          revise context element key := by
        funext old other
        exact revise_congr changes.ns changes.localName old other
      rw [List.foldl_cons, ← find?_apply ruleBuiltin distinct notHint, ← same]
      exact induction
        (fun other member => builtin other (List.mem_cons_of_mem _ member))
        (changes.distinct distinct)

/-! ### Revisions commute -/

/-- An upgrade keeps what the default schemes say of a value. -/
private theorem isAllowed_upgrade {schemes : SchemeList} {value : String}
    (http : schemes.allows "http" = true)
    (https : schemes.allows "https" = true)
    (resolves : UpgradeResolves context value) :
    isAllowed context schemes ((httpsForm? context value).getD value) =
      isAllowed context schemes value := by
  cases form : httpsForm? context value with
  | none => rfl
  | some text =>
      obtain ⟨url, upgraded, absolute, isHttp, upgradedEq, rfl⟩ :=
        httpsForm?_eq_some form
      obtain ⟨again, absoluteAgain, isHttps⟩ :=
        resolves url upgraded absolute isHttp upgradedEq
      simp [isAllowed, absolute, absoluteAgain, isHttp, isHttps, http, https]

private theorem upgradeResolves_upgrade {value : String}
    (resolves : UpgradeResolves context value) :
    UpgradeResolves context ((httpsForm? context value).getD value) := by
  cases form : httpsForm? context value with
  | none => exact resolves
  | some text =>
      obtain ⟨url, upgraded, absolute, isHttp, upgradedEq, rfl⟩ :=
        httpsForm?_eq_some form
      intro other _ otherAbsolute otherHttp _
      exact absurd otherHttp (isUpgraded_of_resolves resolves absolute isHttp
        upgradedEq other otherAbsolute)

/-- What the revisions of a key need of its value. -/
def Revisable (context : Context) (key : String) (old : Option String) : Prop :=
  key ∈ ["href", "action"] → ∀ value, old = some value →
    UpgradeResolves context value

theorem Upgradable.revisable (upgradable : Upgradable context element)
    (key : String) : Revisable context key (element.attributes.find? key) := by
  intro upgraded value found
  have folded : ∀ name ∈ ["href", "action"], Text.lower name = name := by decide
  refine upgradable.resolves key upgraded value ?_
  rw [Element.attribute?, attributeKey_of_lower (folded key upgraded)]
  exact found

private theorem Revisable.upgradeValue {old : Option String}
    (revisable : Revisable context key old) :
    Revisable context key (upgradeValue context old) := by
  intro upgraded value found
  obtain ⟨before, present, rfl⟩ := Option.map_eq_some_iff.mp found
  exact upgradeResolves_upgrade (revisable upgraded before present)

theorem Revisable.revise {old : Option String}
    (revisable : Revisable context key old) (rule : Rule) :
    Revisable context key (revise context element key old rule) := by
  cases rule with
  | blankTarget =>
      simp only [Rule.revise]
      split
      next written =>
        intro upgraded
        rw [written.1] at upgraded
        exact absurd upgraded (by decide)
      next => exact revisable
  | noopener =>
      simp only [Rule.revise]
      split
      next written =>
        intro upgraded
        rw [written.1] at upgraded
        exact absurd upgraded (by decide)
      next => exact revisable
  | httpsLinks =>
      simp only [Rule.revise]
      split
      · exact revisable.upgradeValue
      · exact revisable
  | httpsForms =>
      simp only [Rule.revise]
      split
      · exact revisable.upgradeValue
      · exact revisable
  | validateUri schemes =>
      simp only [Rule.revise]
      split
      · intro upgraded value found
        exact revisable upgraded value (Option.eq_some_of_filter_eq_some found)
      · exact revisable
  | referrerPolicy policy =>
      simp only [Rule.revise]
      split
      next written =>
        intro upgraded
        rw [written.1] at upgraded
        exact absurd upgraded (by decide)
      next => exact revisable
  | custom rule => exact revisable

/-- A rule leaves the keys alone that it is not meant for. -/
private theorem revise_of_apart {rule : Rule}
    (apart : ∀ name ∈ touchedAt rule.order, key ≠ Text.lower name)
    (old : Option String) : revise context element key old rule = old := by
  have folded : ∀ name ∈ ["target", "rel", "href", "action", "xlink:href"],
      Text.lower name = name := by decide
  have policyFolded : Text.lower "referrerPolicy" = "referrerpolicy" := by
    decide
  cases rule <;>
    simp_all [touchedAt, order, uriAttributes, revise]

private theorem filter_upgradeValue {schemes : SchemeList}
    {old : Option String} (http : schemes.allows "http" = true)
    (https : schemes.allows "https" = true)
    (resolves : ∀ value, old = some value → UpgradeResolves context value) :
    (upgradeValue context old).filter (isAllowed context schemes) =
      upgradeValue context (old.filter (isAllowed context schemes)) := by
  cases old with
  | none => rfl
  | some value =>
      have allowed := isAllowed_upgrade http https (resolves value rfl)
      simp only [upgradeValue, Option.map_some, Option.filter_some, allowed]
      split <;> rfl

/-- Validation against the default schemes commutes with every revision. -/
private theorem revise_validateUri_comm {old : Option String}
    (revisable : Revisable context key old) {rule : Rule}
    (member : rule ∈ builtins) :
    revise context element key
        (revise context element key old (validateUri .default)) rule =
      revise context element key (revise context element key old rule)
        (validateUri .default) := by
  simp only [builtins, List.mem_cons, List.not_mem_nil, or_false] at member
  rcases member with rfl | rfl | rfl | rfl | rfl | rfl
  · by_cases active : key = "target" ∧ supportsTarget element
    · have unchecked : key ∉ uriAttributes := by rw [active.1]; decide
      simp only [revise, if_neg unchecked]
    · simp only [revise, if_neg active]
  · by_cases active : key = "rel" ∧ element.isHtml "a"
    · have unchecked : key ∉ uriAttributes := by rw [active.1]; decide
      simp only [revise, if_neg unchecked]
    · simp only [revise, if_neg active]
  · by_cases active : key = "href" ∧ element.isHtml "a"
    · have checked : key ∈ uriAttributes := by rw [active.1]; decide
      simp only [revise, if_pos active, if_pos checked]
      exact (filter_upgradeValue (by decide) (by decide)
        (revisable (by simp [active.1]))).symm
    · simp only [revise, if_neg active]
  · by_cases active : key = "action" ∧ element.isHtml "form"
    · have checked : key ∈ uriAttributes := by rw [active.1]; decide
      simp only [revise, if_pos active, if_pos checked]
      exact (filter_upgradeValue (by decide) (by decide)
        (revisable (by simp [active.1]))).symm
    · simp only [revise, if_neg active]
  · rfl
  · by_cases active : key = "referrerpolicy" ∧ supportsReferrerPolicy element
    · have unchecked : key ∉ uriAttributes := by rw [active.1]; decide
      simp only [revise, if_neg unchecked]
    · simp only [revise, if_neg active]

private theorem eq_of_order_eq {first second : Rule}
    (firstMember : first ∈ builtins) (secondMember : second ∈ builtins)
    (same : first.order = second.order) : first = second :=
  List.inj_on_of_nodup_map (by decide) firstMember secondMember same

theorem isCustom_of_mem_builtins {rule : Rule} (member : rule ∈ builtins) :
    rule.isCustom = false := by
  have all : ∀ rule ∈ builtins, rule.isCustom = false := by decide
  exact all rule member

/-- Revisions by the default rules commute. -/
theorem revise_comm {old : Option String}
    (revisable : Revisable context key old) {first second : Rule}
    (firstMember : first ∈ builtins) (secondMember : second ∈ builtins) :
    revise context element key (revise context element key old first) second =
      revise context element key (revise context element key old second)
        first := by
  have validation : validateUri .default ∈ builtins := by simp [builtins]
  by_cases same : first.order = second.order
  · rw [eq_of_order_eq firstMember secondMember same]
  by_cases firstValidates : first.order = 4
  · rw [eq_of_order_eq firstMember validation firstValidates]
    exact revise_validateUri_comm revisable secondMember
  by_cases secondValidates : second.order = 4
  · rw [eq_of_order_eq secondMember validation secondValidates]
    exact (revise_validateUri_comm revisable firstMember).symm
  -- Apart from the validation no two rules are meant for the same attribute.
  have disjoint : ∀ left ∈ builtins, ∀ right ∈ builtins, left.order ≠ 4 →
      right.order ≠ 4 → left.order ≠ right.order →
        ∀ name ∈ touchedAt left.order, ∀ other ∈ touchedAt right.order,
          Text.lower name ≠ Text.lower other := by decide
  by_cases apart : ∀ name ∈ touchedAt first.order, key ≠ Text.lower name
  · rw [revise_of_apart apart, revise_of_apart apart]
  · simp only [not_forall, not_not] at apart
    obtain ⟨name, member, rfl⟩ := apart
    have apart := disjoint first firstMember second secondMember
      firstValidates secondValidates same name member
    rw [revise_of_apart apart, revise_of_apart apart]

/-- A fold over commuting steps does not depend on their order. -/
private theorem foldl_eq_of_perm {first second : List Rule}
    (same : first.Perm second) {old : Option String}
    (members : ∀ rule ∈ first, rule ∈ builtins)
    (revisable : Revisable context key old) :
    first.foldl (revise context element key) old =
      second.foldl (revise context element key) old := by
  induction same generalizing old with
  | nil => rfl
  | cons rule same induction =>
      exact induction
        (fun other member => members other (List.mem_cons_of_mem _ member))
        (revisable.revise rule)
  | swap first second rest =>
      simp only [List.foldl_cons]
      rw [revise_comm revisable (members second List.mem_cons_self)
        (members first (by simp))]
  | trans one two inductionOne inductionTwo =>
      exact (inductionOne members revisable).trans (inductionTwo
        (fun rule member => members rule (one.mem_iff.mpr member)) revisable)

/-! ### The hint for new windows -/

/-- An element with a link that gets a hint for a new window in place of a
target. -/
structure IsHinted (element : Element) : Prop where
  targetless : ¬TakesTarget element
  untargeted : element.hasAttribute "target" = false
  linked : element.hasAttribute "href" ∨ element.hasAttribute "xlink:href"

/-- Validation against the default schemes refuses every link. -/
def LosesLinks (context : Context) (element : Element) : Prop :=
  ∀ name ∈ ["href", "xlink:href"], ∀ value,
    element.attribute? name = some value → ¬IsValid context .default value

/-- The element gets its hint only as long as it has the links that validation
takes. -/
def LosesHint (context : Context) (element : Element) : Prop :=
  IsHinted element ∧ LosesLinks context element ∧
    element.attribute? "xlink:show" ≠ some "new"

/-- `blankTarget` sees the links before they are validated. -/
def HintsFirst (rules : List Rule) : Prop :=
  [blankTarget, validateUri .default].Sublist rules

private theorem attribute?_setBlankTarget_of_hinted
    (hinted : IsHinted element) :
    (setBlankTarget element).attribute? "xlink:show" = some "new" := by
  have unsupported : supportsTarget element = false := by
    rw [← Bool.not_eq_true, supportsTarget_iff]
    exact hinted.targetless
  have links : (element.hasAttribute "xlink:href" ||
      element.hasAttribute "href") = true :=
    Bool.or_eq_true _ _ ▸ hinted.linked.symm
  simp only [setBlankTarget, unsupported, Bool.false_eq_true, if_false,
    hinted.untargeted, links, Bool.not_false, Bool.and_self, if_true]
  exact Element.attribute?_setAttribute_self _ _ _

private theorem attribute?_setBlankTarget_of_not_hinted
    (plain : ¬IsHinted element) :
    (setBlankTarget element).attribute? "xlink:show" =
      element.attribute? "xlink:show" := by
  unfold setBlankTarget
  cases supported : supportsTarget element with
  | true =>
      have written := element.attribute?_setAttribute_self "target" "_blank"
      have targeted : (element.setAttribute "target" "_blank").hasAttribute
          "target" = true := by rw [Element.hasAttribute_eq, written]; rfl
      simp only [if_true, targeted, Bool.not_true, Bool.false_and,
        Bool.false_eq_true, if_false]
      exact Element.attribute?_setAttribute_of_ne (by decide) _
  | false =>
      simp only [Bool.false_eq_true, if_false]
      split
      next hinted =>
        simp only [Bool.and_eq_true, Bool.not_eq_true', Bool.or_eq_true]
          at hinted
        refine absurd ⟨?_, hinted.1, hinted.2.symm⟩ plain
        rw [← supportsTarget_iff, supported]
        exact Bool.false_ne_true
      next => rfl

/-- Built-in rules leave an attribute alone that none of them is meant for. -/
private theorem attribute?_effect_of_apart {rules : List Rule}
    (builtin : ∀ rule ∈ rules, rule.isCustom = false)
    (apart : ∀ rule ∈ rules, ∀ name ∈ touchedAt rule.order,
      Text.lower key ≠ Text.lower name) (element : Element) :
    (RuleSet.effect context rules element).attribute? key =
      element.attribute? key := by
  induction rules generalizing element with
  | nil => rfl
  | cons rule rules induction =>
      have once := (changes_apply context rule
        (builtin rule List.mem_cons_self) element).kept key
          (apart rule List.mem_cons_self)
      exact (induction
        (fun other member => builtin other (List.mem_cons_of_mem _ member))
        (fun other member => apart other (List.mem_cons_of_mem _ member))
        _).trans once

/-! ### Links during a run -/

/-- What a default rule makes of a link: an upgrade, a check or nothing. -/
private theorem revise_link (link : key ∈ ["href", "xlink:href"])
    (old : Option String) {rule : Rule} (member : rule ∈ builtins) :
    revise context element key old rule = old ∨
      (key = "href" ∧
        revise context element key old rule = upgradeValue context old) ∨
      (rule.order = 4 ∧ revise context element key old rule =
        old.filter (isAllowed context .default)) := by
  have checked : ∀ name ∈ ["href", "xlink:href"], name ∈ uriAttributes := by
    decide
  have other : ∀ link ∈ ["href", "xlink:href"],
      ∀ name ∈ ["target", "rel", "action", "referrerpolicy"], link ≠ name := by
    decide
  have apart := other key link
  simp only [builtins, List.mem_cons, List.not_mem_nil, or_false] at member
  rcases member with rfl | rfl | rfl | rfl | rfl | rfl
  · simp [revise, apart "target"]
  · simp [revise, apart "rel"]
  · by_cases active : key = "href" ∧ element.isHtml "a"
    · exact .inr (.inl ⟨active.1, by simp only [revise, if_pos active]⟩)
    · exact .inl (by simp only [revise, if_neg active])
  · simp [revise, apart "action"]
  · exact .inr (.inr ⟨rfl, by simp only [revise, if_pos (checked key link)]⟩)
  · simp [revise, apart "referrerpolicy"]

/-- Whether a link may stay is the same before and after a revision. -/
private theorem any_revise (element : Element)
    (link : key ∈ ["href", "xlink:href"]) {old : Option String}
    (revisable : Revisable context key old)
    {rule : Rule} (member : rule ∈ builtins) :
    (revise context element key old rule).any (isAllowed context .default) =
      old.any (isAllowed context .default) := by
  rcases revise_link link old member with same | ⟨isHref, upgraded⟩ | ⟨_, checked⟩
  · rw [same]
  · rw [upgraded]
    cases old with
    | none => rfl
    | some value =>
        simp only [upgradeValue, Option.map_some, Option.any_some]
        exact isAllowed_upgrade (by decide) (by decide)
          (revisable (by simp [isHref]) value rfl)
  · rw [checked, Option.any_filter]
    simp

/-- Nothing but validation takes a link. -/
private theorem isSome_revise (link : key ∈ ["href", "xlink:href"])
    (old : Option String) {rule : Rule} (member : rule ∈ builtins)
    (keeps : rule.order ≠ 4) :
    (revise context element key old rule).isSome = old.isSome := by
  rcases revise_link link old member with same | ⟨_, upgraded⟩ | ⟨checks, _⟩
  · rw [same]
  · rw [upgraded, upgradeValue, Option.isSome_map]
  · contradiction

private theorem isSome_foldl_revise (link : key ∈ ["href", "xlink:href"])
    {old : Option String} {rules : List Rule}
    (members : ∀ rule ∈ rules, rule ∈ builtins)
    (keep : ∀ rule ∈ rules, rule.order ≠ 4) :
    (rules.foldl (revise context element key) old).isSome = old.isSome := by
  induction rules generalizing old with
  | nil => rfl
  | cons rule rules induction =>
      rw [List.foldl_cons, ← isSome_revise link old
        (members rule List.mem_cons_self) (keep rule List.mem_cons_self)]
      exact induction
        (fun other member => members other (List.mem_cons_of_mem _ member))
        (fun other member => keep other (List.mem_cons_of_mem _ member))

/-- Behind a validation the links that may stay are left. -/
private theorem isSome_foldl_revise_of_validated
    (link : key ∈ ["href", "xlink:href"]) {old : Option String}
    (revisable : Revisable context key old) {rules : List Rule}
    (members : ∀ rule ∈ rules, rule ∈ builtins)
    (validated : validateUri .default ∈ rules ∨
      old.isSome = old.any (isAllowed context .default)) :
    (rules.foldl (revise context element key) old).isSome =
      old.any (isAllowed context .default) := by
  induction rules generalizing old with
  | nil => exact validated.resolve_left List.not_mem_nil
  | cons rule rules induction =>
      have member := members rule List.mem_cons_self
      have validation : validateUri .default ∈ builtins := by simp [builtins]
      have same := any_revise element link revisable member
      rw [List.foldl_cons, ← same]
      refine induction (revisable.revise rule)
        (fun other member => members other (List.mem_cons_of_mem _ member)) ?_
      by_cases checks : rule.order = 4
      · right
        have checked : key ∈ uriAttributes := by
          revert link
          simp only [uriAttributes, List.mem_cons, List.not_mem_nil, or_false]
          exact fun link => link.imp_right .inr
        simp only [eq_of_order_eq member validation checks, revise,
          if_pos checked, Option.isSome_filter, Option.any_filter, Bool.and_self]
      · rcases validated with validated | allowed
        · rcases List.mem_cons.mp validated with isRule | later
          · rw [← isRule] at checks
            exact absurd rfl checks
          · exact .inl later
        · right
          rw [isSome_revise link old member checks, same, allowed]

/-- The links of an element before and after some of the default rules. -/
private theorem hasAttribute_effect {name : String}
    (link : name ∈ ["href", "xlink:href"]) {rules : List Rule}
    (members : ∀ rule ∈ rules, rule ∈ builtins)
    (upgradable : Upgradable context element) :
    (RuleSet.effect context rules element).hasAttribute name = true ↔
      ∃ value, element.attribute? name = some value ∧
        (validateUri .default ∈ rules → IsValid context .default value) := by
  have folded : ∀ name ∈ ["href", "xlink:href"],
      Text.lower name = name ∧ name ≠ "xlink:show" := by decide
  have key (other : Element) :
      other.attribute? name = other.attributes.find? name := by
    rw [Element.attribute?, attributeKey_of_lower (folded name link).1]
  have revisable := upgradable.revisable name
  rw [Element.hasAttribute_eq, key, key, find?_effect
    (fun rule member => isCustom_of_mem_builtins (members rule member))
    upgradable.distinct (folded name link).2]
  by_cases validated : validateUri .default ∈ rules
  · rw [isSome_foldl_revise_of_validated link revisable members
      (.inl validated)]
    simp only [validated, true_implies, ← isAllowed_iff]
    cases element.attributes.find? name <;> simp
  · have validation : validateUri .default ∈ builtins := by simp [builtins]
    have keep : ∀ rule ∈ rules, rule.order ≠ 4 := fun rule member checks =>
      validated (eq_of_order_eq (members rule member) validation checks ▸ member)
    rw [isSome_foldl_revise link members keep]
    simp only [validated, false_implies, and_true, Option.isSome_iff_exists]

/-- Other rules than `blankTarget` leave the target of an element as it is. -/
private theorem target_effect {rules : List Rule}
    (members : ∀ rule ∈ rules, rule ∈ builtins)
    (others : ∀ rule ∈ rules, rule.order ≠ 0) (context : Context)
    (element : Element) :
    (TakesTarget (RuleSet.effect context rules element) ↔
        TakesTarget element) ∧
      (RuleSet.effect context rules element).hasAttribute "target" =
        element.hasAttribute "target" := by
  have builtin : ∀ rule ∈ rules, rule.isCustom = false :=
    fun rule member => isCustom_of_mem_builtins (members rule member)
  have apart : ∀ rule ∈ builtins, rule.order ≠ 0 →
      ∀ name ∈ touchedAt rule.order, Text.lower "target" ≠ Text.lower name := by
    decide
  obtain ⟨ns, localName⟩ := effect_keeps_name context builtin element
  constructor
  · rw [TakesTarget, TakesTarget, ns, localName]
  · rw [Element.hasAttribute_eq, attribute?_effect_of_apart builtin fun rule
      member => apart rule (members rule member) (others rule member)]
    rfl

/-- Whether `blankTarget` gives the hint depends on the links that the rules
before it left. -/
private theorem isHinted_effect {rules : List Rule}
    (members : ∀ rule ∈ rules, rule ∈ builtins)
    (others : ∀ rule ∈ rules, rule.order ≠ 0)
    (upgradable : Upgradable context element) :
    IsHinted (RuleSet.effect context rules element) ↔
      IsHinted element ∧
        (validateUri .default ∈ rules → ¬LosesLinks context element) := by
  obtain ⟨takes, target⟩ := target_effect members others context element
  have href := hasAttribute_effect (by simp : "href" ∈ _) members upgradable
  have xlink :=
    hasAttribute_effect (by simp : "xlink:href" ∈ _) members upgradable
  constructor
  · rintro ⟨targetless, untargeted, linked⟩
    rw [href, xlink] at linked
    have linked : ∃ name ∈ ["href", "xlink:href"], ∃ value,
        element.attribute? name = some value ∧ (validateUri .default ∈ rules →
          IsValid context .default value) := by
      simpa using linked
    obtain ⟨name, link, value, present, valid⟩ := linked
    refine ⟨⟨takes.not.mp targetless, target ▸ untargeted, ?_⟩,
      fun validated refused => refused name link value present (valid validated)⟩
    have present : element.hasAttribute name = true := by
      rw [Element.hasAttribute_eq, present]; rfl
    simp only [List.mem_cons, List.not_mem_nil, or_false] at link
    rcases link with rfl | rfl
    · exact .inl present
    · exact .inr present
  · rintro ⟨hinted, valid⟩
    refine ⟨takes.not.mpr hinted.targetless, target.trans hinted.untargeted, ?_⟩
    rw [href, xlink]
    by_cases validated : validateUri .default ∈ rules
    · have valid := valid validated
      simp only [LosesLinks, not_forall, not_not] at valid
      obtain ⟨name, link, value, present, valid⟩ := valid
      simp only [List.mem_cons, List.not_mem_nil, or_false] at link
      rcases link with rfl | rfl
      · exact .inl ⟨value, present, fun _ => valid⟩
      · exact .inr ⟨value, present, fun _ => valid⟩
    · simp only [validated, false_implies, and_true, ← Option.isSome_iff_exists]
      exact hinted.linked

/-! ### Two orders -/

/-- An order of the default rules, split at `blankTarget`. -/
private theorem split_of_perm {rules : List Rule} (order : rules.Perm builtins) :
    ∃ before after, rules = before ++ blankTarget :: after ∧
      (∀ rule ∈ before ++ after, rule ∈ builtins ∧ rule.order ≠ 0) ∧
      (HintsFirst rules ↔ validateUri .default ∉ before) := by
  have member : blankTarget ∈ rules := order.mem_iff.mpr (by simp [builtins])
  obtain ⟨before, after, rfl⟩ := List.append_of_mem member
  have others : (before ++ after).Perm builtins.tail :=
    (List.perm_middle.symm.trans order).cons_inv
  have isOther : ∀ rule ∈ before ++ after,
      rule ∈ builtins ∧ rule.order ≠ 0 := by
    have late : ∀ rule ∈ builtins.tail, rule.order ≠ 0 := by decide
    intro rule member
    have member := others.mem_iff.mp member
    exact ⟨List.mem_of_mem_tail member, late rule member⟩
  refine ⟨before, after, rfl, isOther, ?_⟩
  have distinct : (before ++ after).Nodup :=
    List.Nodup.of_map Rule.order
      ((others.map Rule.order).nodup_iff.mpr (by decide))
  constructor
  · intro hintsFirst early
    obtain ⟨left, right, split, leftSublist, rightSublist⟩ :=
      List.sublist_append_iff.mp hintsFirst
    cases left with
    | nil =>
        rw [List.nil_append] at split
        rw [← split, List.cons_sublist_cons, List.singleton_sublist]
          at rightSublist
        exact (List.nodup_append.mp distinct).2.2 _ early _ rightSublist rfl
    | cons head left =>
        have first : blankTarget ∈ before := by
          rw [(List.cons.inj split).1]
          exact leftSublist.subset List.mem_cons_self
        exact (isOther _ (List.mem_append_left _ first)).2 rfl
  · intro late
    have member : validateUri .default ∈ before ++ after :=
      others.mem_iff.mpr (by simp [builtins])
    have member := (List.mem_append.mp member).resolve_left late
    exact ((List.singleton_sublist.mpr member).cons_cons blankTarget).trans
      (List.sublist_append_right _ _)

/-- The hint after all default rules, as it follows from the element before
them. -/
private theorem attribute?_effect_hint {rules : List Rule}
    (order : rules.Perm builtins) (upgradable : Upgradable context element) :
    (IsHinted element ∧ (HintsFirst rules ∨ ¬LosesLinks context element) →
        (RuleSet.effect context rules element).attribute? "xlink:show" =
          some "new") ∧
      (¬(IsHinted element ∧
          (HintsFirst rules ∨ ¬LosesLinks context element)) →
        (RuleSet.effect context rules element).attribute? "xlink:show" =
          element.attribute? "xlink:show") := by
  obtain ⟨before, after, rfl, others, hintsFirst⟩ := split_of_perm order
  have apart : ∀ rule ∈ builtins, rule.order ≠ 0 → ∀ name ∈
      touchedAt rule.order, Text.lower "xlink:show" ≠ Text.lower name := by
    decide
  have kept (rules : List Rule)
      (inside : ∀ rule ∈ rules, rule ∈ before ++ after) (element : Element) :
      (RuleSet.effect context rules element).attribute? "xlink:show" =
        element.attribute? "xlink:show" :=
    attribute?_effect_of_apart
      (fun rule member =>
        isCustom_of_mem_builtins (others rule (inside rule member)).1)
      (fun rule member => apart rule (others rule (inside rule member)).1
        (others rule (inside rule member)).2) element
  have hinted := isHinted_effect
    (fun rule member => (others rule (List.mem_append_left _ member)).1)
    (fun rule member => (others rule (List.mem_append_left _ member)).2)
    upgradable
  have conditions : (validateUri .default ∈ before →
      ¬LosesLinks context element) ↔
        HintsFirst (before ++ blankTarget :: after) ∨
          ¬LosesLinks context element := by
    rw [hintsFirst, imp_iff_not_or]
  rw [← conditions, ← hinted]
  have run : RuleSet.effect context (before ++ blankTarget :: after) element =
      RuleSet.effect context after
        (setBlankTarget (RuleSet.effect context before element)) := by
    simp only [RuleSet.effect, List.foldl_append, List.foldl_cons]
    rfl
  rw [run, kept after fun _ member => List.mem_append_right _ member]
  constructor
  · exact attribute?_setBlankTarget_of_hinted
  · intro plain
    rw [attribute?_setBlankTarget_of_not_hinted plain,
      kept before fun _ member => List.mem_append_left _ member]

private theorem applyAll_element {rules : List Rule}
    (order : rules.Perm builtins) (element : Element) :
    (RuleSet.applyAll context rules element).element =
      RuleSet.effect context rules element :=
  (RuleSet.applyAll_of_allSucceed rules element
    (RuleSet.allSucceed_of_builtin rules element fun _ member =>
      isCustom_of_mem_builtins (order.mem_iff.mp member))).2

/-- Two orders of the default rules leave the same attributes, except for the
hint of an element that loses the links it is hinted for: it depends on whether
`blankTarget` sees them. -/
theorem find?_applyAll_of_perm {first second : List Rule}
    (firstOrder : first.Perm builtins) (secondOrder : second.Perm builtins)
    (upgradable : Upgradable context element) :
    (∀ key, key ≠ "xlink:show" →
        (RuleSet.applyAll context first element).element.attributes.find? key =
          (RuleSet.applyAll context second element).element.attributes.find?
            key) ∧
      ((RuleSet.applyAll context first element).element.attributes.find?
            "xlink:show" =
          (RuleSet.applyAll context second element).element.attributes.find?
            "xlink:show" ↔
        (HintsFirst first ↔ HintsFirst second) ∨
          ¬LosesHint context element) := by
  rw [applyAll_element firstOrder, applyAll_element secondOrder]
  have firstMembers : ∀ rule ∈ first, rule ∈ builtins :=
    fun _ member => firstOrder.mem_iff.mp member
  have secondMembers : ∀ rule ∈ second, rule ∈ builtins :=
    fun _ member => secondOrder.mem_iff.mp member
  constructor
  · intro key notHint
    rw [find?_effect (fun rule member => isCustom_of_mem_builtins
        (firstMembers rule member)) upgradable.distinct notHint,
      find?_effect (fun rule member => isCustom_of_mem_builtins
        (secondMembers rule member)) upgradable.distinct notHint]
    exact foldl_eq_of_perm (firstOrder.trans secondOrder.symm) firstMembers
      (upgradable.revisable key)
  · have key (other : Element) : other.attributes.find? "xlink:show" =
        other.attribute? "xlink:show" := by
      rw [Element.attribute?, attributeKey_of_lower (by decide)]
    obtain ⟨firstHint, firstPlain⟩ :=
      attribute?_effect_hint firstOrder upgradable
    obtain ⟨secondHint, secondPlain⟩ :=
      attribute?_effect_hint secondOrder upgradable
    rw [key, key]
    by_cases loses : IsHinted element ∧ LosesLinks context element
    · -- The hint stands exactly where `blankTarget` saw the links.
      have depends (rules : List Rule) : IsHinted element ∧
          (HintsFirst rules ∨ ¬LosesLinks context element) ↔
            HintsFirst rules := by
        simp only [loses.1, loses.2, not_true_eq_false, or_false, true_and]
      rw [depends] at firstHint firstPlain secondHint secondPlain
      have unhinted : ¬LosesHint context element ↔
          element.attribute? "xlink:show" = some "new" := by
        simp only [LosesHint, loses.1, loses.2, true_and, not_not]
      rw [unhinted]
      by_cases firstSees : HintsFirst first <;>
        by_cases secondSees : HintsFirst second
      · simp only [firstHint firstSees, secondHint secondSees, firstSees,
          secondSees, true_or]
      · simp only [firstHint firstSees, secondPlain secondSees, firstSees,
          secondSees, iff_false, not_true_eq_false, false_or, eq_comm]
      · simp only [firstPlain firstSees, secondHint secondSees, firstSees,
          secondSees, iff_true, false_or]
      · simp only [firstPlain firstSees, secondPlain secondSees, firstSees,
          secondSees, true_or]
    · have sees (rules : List Rule) : IsHinted element ∧
          (HintsFirst rules ∨ ¬LosesLinks context element) ↔
            IsHinted element :=
        ⟨And.left, fun hinted => ⟨hinted, .inr fun lost => loses ⟨hinted, lost⟩⟩⟩
      rw [sees] at firstHint firstPlain secondHint secondPlain
      refine iff_of_true ?_ (.inr fun lost => loses ⟨lost.1, lost.2.1⟩)
      by_cases hinted : IsHinted element
      · rw [firstHint hinted, secondHint hinted]
      · rw [firstPlain hinted, secondPlain hinted]

/-- An image that links to a script. -/
def scriptImage : Element where
  localName := "image"
  ns := .svg
  attributes := [("xlink:href", "javascript:x")]

/-- The default rules with the validation in front. -/
def validationFirst : List Rule :=
  [validateUri .default, blankTarget, noopener, httpsLinks, httpsForms,
    referrerPolicy .default]

private theorem perm_validationFirst : validationFirst.Perm builtins :=
  (List.perm_middle : ([blankTarget, noopener, httpsLinks, httpsForms] ++
    validateUri .default :: [referrerPolicy .default]).Perm _).symm

private theorem upgradable_scriptImage : Upgradable {} scriptImage := by
  have absent : ∀ key ∈ ["href", "action"],
      scriptImage.attribute? key = none := by decide
  refine ⟨by decide, ?_⟩
  intro key member value found
  rw [absent key member] at found
  contradiction

private theorem isHinted_scriptImage : IsHinted scriptImage where
  targetless := by
    rw [← supportsTarget_iff]
    decide
  untargeted := by decide
  linked := by decide

private theorem losesLinks_scriptImage : LosesLinks {} scriptImage := by
  have refused : isAllowed {} .default "javascript:x" = false := by
    decide +kernel
  have values : ∀ name ∈ ["href", "xlink:href"],
      (scriptImage.attribute? name).all (· = "javascript:x") := by decide
  intro name link value present
  have value := values name link
  rw [present, Option.all_some, decide_eq_true_eq] at value
  rw [value, ← isAllowed_iff, refused]
  exact Bool.false_ne_true

theorem find?_applyAll_of_perm_scriptImage :
    (∀ key, key ≠ "xlink:show" →
        (RuleSet.applyAll {} builtins scriptImage).element.attributes.find?
            key =
          (RuleSet.applyAll {} validationFirst
            scriptImage).element.attributes.find? key) ∧
      ((RuleSet.applyAll {} builtins scriptImage).element.attributes.find?
            "xlink:show" =
          (RuleSet.applyAll {} validationFirst
            scriptImage).element.attributes.find? "xlink:show" ↔
        (HintsFirst builtins ↔ HintsFirst validationFirst) ∨
          ¬LosesHint {} scriptImage) :=
  find?_applyAll_of_perm (.refl _) perm_validationFirst upgradable_scriptImage

/-- The image keeps its hint when the rules run in their usual order, and gets
none when the link is validated first. -/
theorem find?_applyAll_differs :
    validationFirst.Perm builtins ∧
      (RuleSet.applyAll {} builtins scriptImage).element.attributes.find?
        "xlink:show" = some "new" ∧
      (RuleSet.applyAll {} validationFirst
        scriptImage).element.attributes.find? "xlink:show" = none := by
  have usual : HintsFirst builtins := by
    simp [HintsFirst, builtins]
  have late : ¬HintsFirst validationFirst := by
    intro hintsFirst
    have places := hintsFirst.map Rule.order
    revert places
    decide
  have usualHint := (attribute?_effect_hint (.refl _)
    upgradable_scriptImage).1 ⟨isHinted_scriptImage, .inl usual⟩
  have lateHint := (attribute?_effect_hint perm_validationFirst
    upgradable_scriptImage).2 fun hinted =>
      hinted.2.elim late fun keeps => keeps losesLinks_scriptImage
  have key (other : Element) : other.attributes.find? "xlink:show" =
      other.attribute? "xlink:show" := by
    rw [Element.attribute?, attributeKey_of_lower (by decide)]
  rw [applyAll_element (.refl _), applyAll_element perm_validationFirst, key,
    key]
  refine ⟨perm_validationFirst, usualHint, lateHint.trans ?_⟩
  decide

end Rule

end MarkupHarden
