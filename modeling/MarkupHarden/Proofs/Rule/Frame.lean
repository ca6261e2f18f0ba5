import MarkupHarden.Proofs.Rule.Commutation

/-!
# What rules leave alone

Built-in rules write a few attributes of their own and change links in two ways
only: an `http` link may get its `https` form, and a link may be removed.  Every
other attribute keeps its value, the old attributes that are left keep their
order, and new ones come behind them.
-/

namespace MarkupHarden

open Dom (Element Attributes)

namespace Rule

variable {context : Context} {element : Element} {key : String}

/-- The keys of the attributes that built-in rules add. -/
def addedKeys : List String :=
  ["target", "xlink:show", "rel", "referrerpolicy"]

/-- No link is ever added. -/
theorem not_mem_uriAttributes (added : key ∈ addedKeys) :
    key ∉ uriAttributes := by
  simp only [addedKeys, List.mem_cons, List.not_mem_nil, or_false] at added
  rcases added with rfl | rfl | rfl | rfl <;> simp [uriAttributes]

/-! ### Edits -/

/-- The attributes of `after` come from those of `before` by edits that built-in
rules make. -/
def Edits (before after : Element) : Prop :=
  Attributes.Edited addedKeys uriAttributes before.attributes after.attributes

namespace Edits

variable {before : Element}

private theorem setAttribute (edits : Edits before element) {name : String}
    (known : element.attributeKey name ∈ addedKeys ∨
      element.attributeKey name ∈ element.attributes.keys) (value : String) :
    Edits before (element.setAttribute name value) :=
  .update value known edits

/-- An attribute whose name is in lower case is stored under its name. -/
private theorem setLower (edits : Edits before element) {name : String}
    (folded : Text.lower name = name) (added : name ∈ addedKeys)
    (value : String) : Edits before (element.setAttribute name value) := by
  apply edits.setAttribute
  left
  rw [attributeKey_of_lower folded]
  exact added

private theorem setBlankTarget (edits : Edits before element) :
    Edits before (Rule.setBlankTarget element) := by
  unfold Rule.setBlankTarget
  extract_lets targeted
  have first : Edits before targeted := by
    unfold targeted
    split
    · exact edits.setLower (by decide) (by simp [addedKeys]) _
    · exact edits
  split
  · exact first.setLower (by decide) (by simp [addedKeys]) _
  · exact first

private theorem upgradeAttribute (edits : Edits before element)
    (name : String) :
    Edits before (Rule.upgradeAttribute context element name).element := by
  unfold Rule.upgradeAttribute
  split
  · exact edits
  next value found =>
    obtain ⟨old, present, _⟩ := Option.bind_eq_some_iff.mp found
    apply edits.setAttribute
    right
    apply Classical.byContradiction
    intro absent
    rw [Element.attribute?, Attributes.find?_eq_none_iff.mpr absent] at present
    contradiction

private theorem validateAttributes (edits : Edits before element)
    (schemes : SchemeList) {todo : List String}
    (links : ∀ name ∈ todo, Text.lower name = name ∧ name ∈ uriAttributes) :
    Edits before
      (Rule.validateAttributes context schemes element todo).element := by
  induction todo generalizing element with
  | nil => exact edits
  | cons name todo induction =>
      obtain ⟨⟨folded, isLink⟩, others⟩ := List.forall_mem_cons.mp links
      apply induction _ others
      unfold validateAttribute
      split
      · exact edits
      · apply Attributes.Edited.erase _ edits
        rw [attributeKey_of_lower folded]
        exact isLink

/-- A built-in rule edits attributes in the same way whatever was done to the
element before. -/
theorem apply (edits : Edits before element) {rule : Rule}
    (builtin : rule.isCustom = false) :
    Edits before (rule.apply context element).element := by
  cases rule with
  | blankTarget => exact edits.setBlankTarget
  | noopener =>
      simp only [Rule.apply, setNoopener]
      split
      · exact edits.setLower (by decide) (by simp [addedKeys]) _
      · exact edits
  | httpsLinks =>
      simp only [Rule.apply]
      split
      · exact edits.upgradeAttribute "href"
      · exact edits
  | httpsForms =>
      simp only [Rule.apply]
      split
      · exact edits.upgradeAttribute "action"
      · exact edits
  | validateUri schemes => exact edits.validateAttributes schemes (by decide)
  | referrerPolicy policy =>
      simp only [Rule.apply, setReferrerPolicy]
      split
      next supports =>
        apply edits.setAttribute
        left
        obtain ⟨html, _⟩ := (supportsReferrerPolicy_iff element).mp supports
        simp only [Element.attributeKey, html]
        decide
      next => exact edits
  | custom rule => contradiction

end Edits

theorem edits_effect {before : Element} {rules : List Rule}
    (builtin : ∀ rule ∈ rules, rule.isCustom = false)
    (edits : Edits before element) :
    Edits before (RuleSet.effect context rules element) := by
  induction rules generalizing element with
  | nil => exact edits
  | cons rule rules induction =>
      obtain ⟨first, others⟩ := List.forall_mem_cons.mp builtin
      exact induction others (edits.apply first)

/-! ### Values -/

/-- A rule looks only at the attributes that rules write and remove. -/
private theorem revise_of_not_touched (notAdded : key ∉ addedKeys)
    (notLink : key ∉ uriAttributes) (old : Option String) (rule : Rule) :
    revise context element key old rule = old := by
  simp only [addedKeys, uriAttributes, List.mem_cons, List.not_mem_nil,
    or_false, not_or] at notAdded notLink
  cases rule <;> simp [revise, uriAttributes, notAdded, notLink]

/-- An attribute that no built-in rule is meant for keeps its value. -/
theorem find?_effect_of_not_touched {rules : List Rule}
    (builtin : ∀ rule ∈ rules, rule.isCustom = false)
    (distinct : element.attributes.keys.Nodup) (notAdded : key ∉ addedKeys)
    (notLink : key ∉ uriAttributes) :
    (RuleSet.effect context rules element).attributes.find? key =
      element.attributes.find? key := by
  have notHint : key ≠ "xlink:show" := by
    rintro rfl
    exact notAdded (by simp [addedKeys])
  rw [find?_effect builtin distinct notHint]
  generalize element.attributes.find? key = old
  clear builtin
  induction rules with
  | nil => rfl
  | cons rule rules induction =>
      rw [List.foldl_cons, revise_of_not_touched notAdded notLink]
      exact induction

/-! ### Links -/

/-- The rule upgrades the link that the element has under a key. -/
def Upgrades (element : Element) (key : String) : Rule → Prop
  | httpsLinks => key = "href" ∧ element.isHtml "a"
  | httpsForms => key = "action" ∧ element.isHtml "form"
  | _ => False

/-- `new` is the URL that `old` resolves to, with scheme `https` in place of
`http`. -/
def IsHttpsForm (context : Context) (old new : String) : Prop :=
  ∃ url upgraded, context.resolver.resolve old = .absolute url ∧
    url.scheme = "http" ∧ url.withSpecialScheme? "https" = some upgraded ∧
      upgraded.scheme = "https" ∧ new = upgraded.text

/-- What built-in rules may make of the link under a key. -/
inductive LinkChange (context : Context) (rules : List Rule)
    (element : Element) (key : String) :
    Option String → Option String → Prop where
  | kept (link : Option String) :
      LinkChange context rules element key link link
  | removed {schemes : SchemeList} (old : String) :
      validateUri schemes ∈ rules →
      LinkChange context rules element key (some old) none
  | upgraded {rule : Rule} {old new : String} :
      rule ∈ rules → Upgrades element key rule → IsHttpsForm context old new →
      LinkChange context rules element key (some old) (some new)

/-- Only one rule upgrades the link under a key. -/
theorem Upgrades.order_eq {first second : Rule}
    (upgrades : Upgrades element key first)
    (alsoUpgrades : Upgrades element key second) :
    first.order = second.order := by
  cases first with
  | httpsLinks =>
      cases second with
      | httpsLinks => rfl
      | httpsForms =>
          have different : ("href" : String) ≠ "action" := by decide
          exact absurd (upgrades.1.symm.trans alsoUpgrades.1) different
      | _ => exact alsoUpgrades.elim
  | httpsForms =>
      cases second with
      | httpsLinks =>
          have different : ("action" : String) ≠ "href" := by decide
          exact absurd (upgrades.1.symm.trans alsoUpgrades.1) different
      | httpsForms => rfl
      | _ => exact alsoUpgrades.elim
  | _ => exact upgrades.elim

private theorem upgradeValue_cases (old : Option String) :
    upgradeValue context old = old ∨
      ∃ value new, old = some value ∧ upgradeValue context old = some new ∧
        IsHttpsForm context value new := by
  cases old with
  | none => exact .inl rfl
  | some value =>
      cases form : httpsForm? context value with
      | none => exact .inl (by simp [upgradeValue, form])
      | some new =>
          right
          obtain ⟨url, upgraded, absolute, http, upgradedEq, same⟩ :=
            httpsForm?_eq_some form
          refine ⟨value, new, rfl, by simp [upgradeValue, form], url, upgraded,
            absolute, http, upgradedEq, ?_, same.symm⟩
          exact Url.scheme_of_withSpecialScheme? upgradedEq

/-- A rule keeps a link, removes it or upgrades it. -/
private theorem revise_link_cases (isLink : key ∈ uriAttributes)
    (old : Option String) (rule : Rule) :
    revise context element key old rule = old ∨
      (∃ schemes, rule = validateUri schemes ∧
        revise context element key old rule = none) ∨
      (Upgrades element key rule ∧
        ∃ value new, old = some value ∧
          revise context element key old rule = some new ∧
            IsHttpsForm context value new) := by
  have notAdded : key ∉ addedKeys := fun added =>
    not_mem_uriAttributes added isLink
  simp only [addedKeys, List.mem_cons, List.not_mem_nil, or_false,
    not_or] at notAdded
  cases rule with
  | blankTarget => exact .inl (by simp [revise, notAdded])
  | noopener => exact .inl (by simp [revise, notAdded])
  | httpsLinks =>
      by_cases active : key = "href" ∧ element.isHtml "a"
      · simp only [revise, if_pos active]
        exact (upgradeValue_cases old).imp_right fun upgraded =>
          .inr ⟨active, upgraded⟩
      · exact .inl (by simp only [revise, if_neg active])
  | httpsForms =>
      by_cases active : key = "action" ∧ element.isHtml "form"
      · simp only [revise, if_pos active]
        exact (upgradeValue_cases old).imp_right fun upgraded =>
          .inr ⟨active, upgraded⟩
      · exact .inl (by simp only [revise, if_neg active])
  | validateUri schemes =>
      simp only [revise, if_pos isLink]
      cases old with
      | none => exact .inl rfl
      | some value =>
          cases allowed : isAllowed context schemes value with
          | true => exact .inl (Option.filter_some_pos allowed)
          | false =>
              exact .inr (.inl ⟨schemes, rfl, Option.filter_some_neg allowed⟩)
  | referrerPolicy policy => exact .inl (by simp [revise, notAdded])
  | custom rule => exact .inl rfl

/-- The next rule of a run. -/
private theorem LinkChange.step {ran : List Rule} {rule : Rule}
    {old now : Option String} (isLink : key ∈ uriAttributes)
    (later : ∀ earlier ∈ ran, earlier.order < rule.order)
    (change : LinkChange context ran element key old now) :
    LinkChange context (ran ++ [rule]) element key old
      (revise context element key now rule) := by
  have here : rule ∈ ran ++ [rule] := by simp
  have before : ∀ earlier ∈ ran, earlier ∈ ran ++ [rule] :=
    fun _ member => List.mem_append_left _ member
  rcases revise_link_cases isLink now rule with
    same | ⟨schemes, rfl, gone⟩ | ⟨upgrades, value, new, found, form, isForm⟩
  · rw [same]
    cases change with
    | kept => exact .kept _
    | removed old validates => exact .removed old (before _ validates)
    | upgraded member upgrades form =>
        exact .upgraded (before _ member) upgrades form
  · rw [gone]
    cases change with
    | kept =>
        cases old with
        | none => exact .kept none
        | some value => exact .removed value here
    | removed old _ => exact .removed old here
    | upgraded _ _ _ => exact .removed _ here
  · rw [form]
    cases change with
    | kept =>
        rw [found]
        exact .upgraded here upgrades isForm
    | removed old _ => contradiction
    | upgraded member alsoUpgrades _ =>
        have earlier := later _ member
        rw [alsoUpgrades.order_eq upgrades] at earlier
        exact absurd earlier (Nat.lt_irrefl _)

private theorem LinkChange.foldl {ran rules : List Rule}
    {old now : Option String} (isLink : key ∈ uriAttributes)
    (ordered : (ran ++ rules).Pairwise fun first second =>
      first.order < second.order)
    (change : LinkChange context ran element key old now) :
    LinkChange context (ran ++ rules) element key old
      (rules.foldl (revise context element key) now) := by
  induction rules generalizing ran now with
  | nil =>
      rw [List.append_nil]
      exact change
  | cons rule rules induction =>
      have later : ∀ earlier ∈ ran, earlier.order < rule.order :=
        fun earlier member =>
          (List.pairwise_append.mp ordered).2.2 earlier member rule
            List.mem_cons_self
      rw [List.append_cons] at ordered ⊢
      exact induction ordered (change.step isLink later)

/-- What built-in rules make of a link: what the rules that look at it, one
after the other, leave of it. -/
theorem linkChange_effect {rules : List Rule}
    (builtin : ∀ rule ∈ rules, rule.isCustom = false)
    (ordered : rules.Pairwise fun first second => first.order < second.order)
    (distinct : element.attributes.keys.Nodup)
    (isLink : key ∈ uriAttributes) :
    LinkChange context rules element key (element.attributes.find? key)
      ((RuleSet.effect context rules element).attributes.find? key) := by
  have notHint : key ≠ "xlink:show" := by
    rintro rfl
    exact not_mem_uriAttributes (by simp [addedKeys]) isLink
  rw [find?_effect builtin distinct notHint]
  have start : LinkChange context [] element key
      (element.attributes.find? key) (element.attributes.find? key) := .kept _
  have inOrder : (([] : List Rule) ++ rules).Pairwise fun first second =>
      first.order < second.order := ordered
  exact start.foldl isLink inOrder

end Rule

/-! ### Sets of rules -/

/-- How far the changes of a set of built-in rules to an element go. -/
structure RuleSet.Framed (rules : RuleSet) (context : Rule.Context)
    (before after : Element) : Prop where
  localName : after.localName = before.localName
  ns : after.ns = before.ns
  kept : ∀ key, key ∉ Rule.addedKeys → key ∉ Rule.uriAttributes →
    after.attributes.find? key = before.attributes.find? key
  links : ∀ key ∈ Rule.uriAttributes,
    Rule.LinkChange context rules.rules before key
      (before.attributes.find? key) (after.attributes.find? key)
  order : ∃ new,
    after.attributes.keys =
        before.attributes.keys.filter (· ∈ after.attributes.keys) ++ new ∧
      ∀ key ∈ new, key ∈ Rule.addedKeys ∧ key ∉ before.attributes.keys
  distinct : after.attributes.keys.Nodup

/-- Built-in rules succeed, and touch nothing but what they are meant for. -/
theorem RuleSet.OfBuiltins.apply_framed {rules : RuleSet}
    (built : rules.OfBuiltins) (context : Rule.Context) {element : Element}
    (distinct : element.attributes.keys.Nodup) :
    (rules.apply context element).fault = none ∧
      rules.Framed context element (rules.apply context element).element := by
  have edits :
      Rule.Edits element (RuleSet.effect context rules.rules element) :=
    Rule.edits_effect built.builtin .unchanged
  have placed := edits.placed (fun _ => Rule.not_mem_uriAttributes) distinct
  obtain ⟨ns, localName⟩ :=
    Rule.effect_keeps_name context built.builtin element
  refine ⟨built.fault_apply element, ?_⟩
  rw [built.apply_eq_effect]
  constructor
  · exact localName
  · exact ns
  · intro key notAdded notLink
    exact Rule.find?_effect_of_not_touched built.builtin distinct notAdded
      notLink
  · intro key isLink
    exact Rule.linkChange_effect built.builtin built.ordered distinct isLink
  · exact placed.split
  · exact placed.distinct

/-- An anchor with a link to upgrade, a link to remove and an attribute to
overwrite, among two that no rule is meant for. -/
def crowdedAnchor : Element where
  localName := "a"
  ns := .html
  attributes :=
    [("title", "t"), ("href", "http://[::1]/"), ("rel", "x"),
      ("action", "javascript:x"), ("id", "y")]

theorem RuleSet.apply_framed_crowdedAnchor :
    let outcome := RuleSet.default.apply {} crowdedAnchor
    outcome.element.attributes =
        [("title", "t"), ("href", "https://[::1]/"),
          ("rel", "noopener noreferrer"), ("id", "y"), ("target", "_blank"),
          ("referrerpolicy", "no-referrer")] ∧
      outcome.fault = none ∧
        RuleSet.default.Framed {} crowdedAnchor outcome.element :=
  ⟨by decide +kernel,
    RuleSet.ofBuiltins_default.apply_framed {} (by decide)⟩

end MarkupHarden
