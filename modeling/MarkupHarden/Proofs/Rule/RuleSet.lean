import MarkupHarden.Rule.RuleSet

/-!
# Applying a set of rules

What the rules of a set make of one element, up to the first fault.  Rules are
kept in run order: to add one is to put it last and to sort stably.
-/

namespace MarkupHarden

open Dom (Element)

theorem Rule.order_lt_of_builtin {rule : Rule}
    (builtin : rule.isCustom = false) : rule.order < 6 := by
  cases rule with
  | custom rule => contradiction
  | _ => simp [order]

namespace RuleSet

/-- What rules make of an element, one after the other, faults aside. -/
def effect (context : Rule.Context) (rules : List Rule) (element : Element) :
    Element :=
  rules.foldl (fun element rule => (rule.apply context element).element)
    element

/-- No rule has a fault on what the rules before it made of an element. -/
def AllSucceed (context : Rule.Context) : List Rule → Element → Prop
  | [], _ => True
  | rule :: rules, element =>
      (rule.apply context element).fault = none ∧
        AllSucceed context rules (rule.apply context element).element

variable {context : Rule.Context}

private theorem fault_upgrade (element : Element) (key : String)
    (isMeant : Bool) :
    (if isMeant then Rule.upgradeAttribute context element key
      else { element : Rule.Outcome }).fault = none := by
  unfold Rule.upgradeAttribute
  split
  · split <;> rfl
  · rfl

private theorem fault_validate (schemes : Rule.SchemeList) (element : Element)
    (keys : List String) :
    (Rule.validateAttributes context schemes element keys).fault = none := by
  induction keys generalizing element with
  | nil => rfl
  | cons key keys induction => exact induction _

theorem applyAll_of_allSucceed (rules : List Rule) (element : Element)
    (succeed : AllSucceed context rules element) :
    (applyAll context rules element).fault = none ∧
      (applyAll context rules element).element =
        effect context rules element := by
  induction rules generalizing element with
  | nil => exact ⟨rfl, rfl⟩
  | cons rule rules induction =>
      obtain ⟨first, rest⟩ := succeed
      rw [applyAll, first]
      exact induction _ rest

theorem applyAll_of_fault (ran : List Rule) (rule : Rule) (rest : List Rule)
    (element : Element) {fault : Fault}
    (succeed : AllSucceed context ran element)
    (fails : (rule.apply context (effect context ran element)).fault =
      some fault) :
    (applyAll context (ran ++ rule :: rest) element).fault = some fault ∧
      (applyAll context (ran ++ rule :: rest) element).element =
        effect context (ran ++ [rule]) element := by
  induction ran generalizing element with
  | nil =>
      have failsAtOnce : (rule.apply context element).fault = some fault :=
        fails
      rw [List.nil_append, applyAll, failsAtOnce]
      exact ⟨failsAtOnce, rfl⟩
  | cons early ran induction =>
      obtain ⟨first, succeed⟩ := succeed
      rw [List.cons_append, applyAll, first]
      exact induction _ succeed fails

/-- Built-in rules never fail. -/
theorem allSucceed_of_builtin (rules : List Rule) (element : Element)
    (builtin : ∀ rule ∈ rules, rule.isCustom = false) :
    AllSucceed context rules element := by
  induction rules generalizing element with
  | nil => trivial
  | cons rule rules induction =>
      refine ⟨?_, induction _ fun other member =>
        builtin other (List.mem_cons_of_mem _ member)⟩
      have notCustom := builtin rule List.mem_cons_self
      cases rule with
      | custom rule => contradiction
      | blankTarget => rfl
      | noopener => rfl
      | httpsLinks => exact fault_upgrade _ _ _
      | httpsForms => exact fault_upgrade _ _ _
      | validateUri schemes => exact fault_validate schemes element _
      | referrerPolicy policy => rfl

/-- Either all rules succeed or there is a first one with a fault. -/
theorem allSucceed_or_fault (context : Rule.Context) (rules : List Rule)
    (element : Element) :
    AllSucceed context rules element ∨
      ∃ ran rule rest fault, rules = ran ++ rule :: rest ∧
        AllSucceed context ran element ∧
        (rule.apply context (effect context ran element)).fault =
          some fault := by
  induction rules generalizing element with
  | nil => exact Or.inl trivial
  | cons rule rules induction =>
      cases outcome : (rule.apply context element).fault with
      | some fault =>
          exact Or.inr ⟨[], rule, rules, fault, rfl, trivial, outcome⟩
      | none =>
          rcases induction (rule.apply context element).element with
            succeed | ⟨ran, failing, rest, fault, split, succeed, fails⟩
          · exact Or.inl ⟨outcome, succeed⟩
          · exact Or.inr ⟨rule :: ran, failing, rest, fault, by rw [split]; rfl,
              ⟨outcome, succeed⟩, fails⟩

/-! ### Run order -/

/-- Rules stand in run order; custom rules share the last place. -/
def Ordered (rules : List Rule) : Prop :=
  rules.Pairwise fun first second => first.order ≤ second.order

/-- Rules sorted stably by their place in the run order. -/
def sorted (rules : List Rule) : List Rule :=
  rules.mergeSort fun first second => first.order ≤ second.order

private theorem le_order_trans (first second third : Rule)
    (before : decide (first.order ≤ second.order) = true)
    (after : decide (second.order ≤ third.order) = true) :
    decide (first.order ≤ third.order) = true := by
  rw [decide_eq_true_eq] at before after ⊢
  exact Nat.le_trans before after

private theorem le_order_total (first second : Rule) :
    (decide (first.order ≤ second.order) ||
      decide (second.order ≤ first.order)) = true := by
  rw [Bool.or_eq_true, decide_eq_true_eq, decide_eq_true_eq]
  exact Nat.le_total _ _

theorem ordered_sorted (rules : List Rule) : Ordered (sorted rules) :=
  (List.pairwise_mergeSort le_order_trans le_order_total rules).imp
    of_decide_eq_true

theorem perm_sorted (rules : List Rule) : (sorted rules).Perm rules :=
  List.mergeSort_perm _ _

/-- A rule is sorted in front of all rules behind it that do not run before
it. -/
private theorem exists_sorted_cons (rule : Rule) (rules : List Rule) :
    ∃ earlier later, sorted (rule :: rules) = earlier ++ rule :: later ∧
      sorted rules = earlier ++ later ∧
      ∀ other ∈ earlier, other.order < rule.order := by
  obtain ⟨earlier, later, whole, rest, before⟩ :=
    List.mergeSort_cons le_order_trans le_order_total rule rules
  refine ⟨earlier, later, whole, rest, fun other member => ?_⟩
  simpa using before other member

private theorem eq_nil_of_earlier {rule : Rule} {earlier rules : List Rule}
    (first : ∀ other ∈ rules, rule.order ≤ other.order)
    (before : ∀ other ∈ earlier, other.order < rule.order)
    (known : earlier ⊆ rules) : earlier = [] := by
  rw [List.eq_nil_iff_forall_not_mem]
  intro other member
  exact Nat.not_le.mpr (before other member) (first other (known member))

private theorem sorted_cons_of_le {rule : Rule} {rules : List Rule}
    (first : ∀ other ∈ rules, rule.order ≤ other.order) :
    sorted (rule :: rules) = rule :: sorted rules := by
  obtain ⟨earlier, later, whole, rest, before⟩ := exists_sorted_cons rule rules
  have known : earlier ⊆ rules := fun other member =>
    (perm_sorted rules).mem_iff.mp (rest ▸ List.mem_append_left later member)
  rw [whole, rest, eq_nil_of_earlier first before known]
  rfl

/-- A rule that runs before all others is sorted from the end to the front. -/
private theorem sorted_append_of_lt {rule : Rule} {rules : List Rule}
    (ordered : Ordered rules)
    (runsFirst : ∀ other ∈ rules, rule.order < other.order) :
    sorted (rules ++ [rule]) = rule :: rules := by
  induction rules with
  | nil => exact List.mergeSort_singleton rule
  | cons next rest induction =>
      obtain ⟨first, restOrdered⟩ := List.pairwise_cons.mp ordered
      obtain ⟨earlier, later, whole, placed, before⟩ :=
        exists_sorted_cons next (rest ++ [rule])
      rw [induction restOrdered fun other member =>
        runsFirst other (List.mem_cons_of_mem _ member)] at placed
      rw [List.cons_append, whole]
      -- The sorted rest starts with the new rule, and of the rest that rule
      -- alone is sorted in front of `next`.
      cases earlier with
      | nil =>
          obtain rfl : rule :: rest = later := placed
          have isSorted := ordered_sorted (next :: (rest ++ [rule]))
          rw [whole] at isSorted
          have tooEarly : next.order ≤ rule.order :=
            (List.pairwise_cons.mp isSorted).1 rule List.mem_cons_self
          exact absurd tooEarly
            (Nat.not_le.mpr (runsFirst next List.mem_cons_self))
      | cons head more =>
          obtain ⟨rfl, rfl⟩ := List.cons.inj placed
          have nothing := eq_nil_of_earlier first
            (fun other member => before other (List.mem_cons_of_mem _ member))
            (List.subset_append_left more later)
          rw [nothing]
          rfl

/-- Among rules in run order a rule is placed where it gets when it is put last
and all are sorted. -/
theorem place_eq_sorted {rule : Rule} {rules : List Rule}
    (ordered : Ordered rules) :
    place rule rules = sorted (rules ++ [rule]) := by
  induction rules with
  | nil => exact (List.mergeSort_singleton rule).symm
  | cons next rest induction =>
      obtain ⟨first, restOrdered⟩ := List.pairwise_cons.mp ordered
      rw [place]
      split
      next runsFirst =>
        refine (sorted_append_of_lt ordered fun other member => ?_).symm
        rcases List.mem_cons.mp member with rfl | later
        · exact runsFirst
        · exact Nat.lt_of_lt_of_le runsFirst (first other later)
      next notBefore =>
        have isFirst : ∀ other ∈ rest ++ [rule], next.order ≤ other.order := by
          intro other member
          rcases List.mem_append.mp member with old | new
          · exact first other old
          · rw [List.mem_singleton.mp new]
            exact Nat.le_of_not_lt notBefore
        rw [induction restOrdered, List.cons_append, sorted_cons_of_le isFirst]

/-- The rules of a set and a new one behind them, which takes the place of the
built-in rule of its name. -/
def pushed (set : RuleSet) (rule : Rule) : List Rule :=
  (if rule.isCustom then set.rules else dropBuiltin rule.name set.rules) ++
    [rule]

/-- To add a rule to a set in run order is to put it last and to sort. -/
theorem rules_insert {set : RuleSet} (ordered : Ordered set.rules)
    (rule : Rule) : (set.insert rule).rules = sorted (set.pushed rule) := by
  refine place_eq_sorted ?_
  split
  · exact ordered
  · exact ordered.filter _

theorem ordered_insert {set : RuleSet} (ordered : Ordered set.rules)
    (rule : Rule) : Ordered (set.insert rule).rules := by
  rw [rules_insert ordered]
  exact ordered_sorted _

theorem ordered_without {set : RuleSet} (ordered : Ordered set.rules)
    (name : String) : Ordered (set.without name).rules :=
  ordered.filter _

/-! ### The order of a set -/

/-- Built-in rules in run order, each at most once. -/
structure OfBuiltins (set : RuleSet) : Prop where
  builtin : ∀ rule ∈ set.rules, rule.isCustom = false
  ordered : set.rules.Pairwise fun first second => first.order < second.order

/-- Without faults a set makes of an element what its rules come to. -/
theorem OfBuiltins.apply_eq_effect {set : RuleSet} (built : OfBuiltins set)
    (element : Element) :
    (set.apply context element).element =
      effect context set.rules element :=
  (applyAll_of_allSucceed set.rules element
    (allSucceed_of_builtin set.rules element built.builtin)).2

theorem OfBuiltins.fault_apply {set : RuleSet} (built : OfBuiltins set)
    (element : Element) : (set.apply context element).fault = none :=
  (applyAll_of_allSucceed set.rules element
    (allSucceed_of_builtin set.rules element built.builtin)).1

theorem ofBuiltins_default : OfBuiltins default :=
  ⟨by decide, by decide⟩

theorem ofBuiltins_empty : OfBuiltins empty :=
  ⟨fun _ member => absurd member List.not_mem_nil, List.Pairwise.nil⟩

theorem OfBuiltins.without {set : RuleSet} (built : OfBuiltins set)
    (name : String) : OfBuiltins (set.without name) :=
  ⟨fun rule member => built.builtin rule (List.mem_filter.mp member).1,
    built.ordered.filter _⟩

private theorem name_eq_of_order_eq {rule other : Rule}
    (builtin : rule.isCustom = false) (same : other.order = rule.order) :
    other.name = rule.name := by
  cases rule <;> cases other <;>
    simp_all [Rule.order, Rule.isCustom, Rule.name]

theorem OfBuiltins.runOrder {set : RuleSet} (built : OfBuiltins set) :
    Ordered set.rules :=
  built.ordered.imp Nat.le_of_lt

/-- Adding a built-in rule keeps the order. -/
theorem OfBuiltins.insert {set : RuleSet} (built : OfBuiltins set)
    {rule : Rule} (builtin : rule.isCustom = false) :
    OfBuiltins (set.insert rule) := by
  have added : (set.insert rule).rules =
      sorted (dropBuiltin rule.name set.rules ++ [rule]) := by
    rw [rules_insert built.runOrder, pushed, if_neg (by simp [builtin])]
  constructor
  · intro other member
    rw [added, (perm_sorted _).mem_iff] at member
    rcases List.mem_append.mp member with old | new
    · exact built.builtin other (List.mem_filter.mp old).1
    · rw [List.mem_singleton.mp new]
      exact builtin
  · have apart : (dropBuiltin rule.name set.rules ++ [rule]).Pairwise
        fun first second => first.order ≠ second.order := by
      refine List.pairwise_append.mpr
        ⟨(built.ordered.filter _).imp Nat.ne_of_lt,
          List.pairwise_singleton _ _, ?_⟩
      intro other member new isRule same
      rw [List.mem_singleton.mp isRule] at same
      obtain ⟨old, kept⟩ := List.mem_filter.mp member
      simp [built.builtin other old, name_eq_of_order_eq builtin same] at kept
    have sortedApart := ((perm_sorted _).pairwise_iff Ne.symm).mpr apart
    rw [added]
    exact ((ordered_sorted _).and sortedApart).imp fun both =>
      Nat.lt_of_le_of_ne both.1 both.2

end RuleSet

end MarkupHarden
