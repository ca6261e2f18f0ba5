import MarkupHarden.Rule.Basic

/-!
# Rule sets

The rules that run on an element, in run order: built-in rules in their fixed
order, each at most once, then custom rules in the order in which they were
added.
-/

namespace MarkupHarden

open Dom (Element)

/-- Enabled rules in run order. -/
structure RuleSet where
  rules : List Rule

namespace RuleSet

/-- Every built-in rule with its default options. -/
def default : RuleSet where
  rules := Rule.builtins

def empty : RuleSet where
  rules := []

/-- Puts a rule behind all rules that do not run after it. -/
def place (rule : Rule) : List Rule → List Rule
  | [] => [rule]
  | next :: rest =>
      if rule.order < next.order then rule :: next :: rest
      else next :: place rule rest

/-- The rules other than the built-in one of a name. -/
def dropBuiltin (name : String) (rules : List Rule) : List Rule :=
  rules.filter fun rule => rule.isCustom || rule.name ≠ name

/-- Adds a rule.  A built-in rule takes the place of the one of its name. -/
def insert (set : RuleSet) (rule : Rule) : RuleSet where
  rules :=
    place rule
      (if rule.isCustom then set.rules else dropBuiltin rule.name set.rules)

/-- The set without the built-in rule of a name. -/
def without (set : RuleSet) (name : String) : RuleSet where
  rules := dropBuiltin name set.rules

/-- Removes the built-in rule of a name; the flag tells whether there was
one. -/
def remove (set : RuleSet) (name : String) : Bool × RuleSet :=
  ((set.without name).rules.length ≠ set.rules.length, set.without name)

/-- The first rule of a name. -/
def find? (set : RuleSet) (name : String) : Option Rule :=
  set.rules.find? fun rule => rule.name = name

def contains (set : RuleSet) (name : String) : Bool :=
  (set.find? name).isSome

def names (set : RuleSet) : List String :=
  set.rules.map Rule.name

def size (set : RuleSet) : Nat :=
  set.rules.length

/-- Applies rules in order up to the first fault. -/
def applyAll (context : Rule.Context) : List Rule → Element → Rule.Outcome
  | [], element => { element }
  | rule :: rules, element =>
      let first := rule.apply context element
      if first.fault.isSome then first
      else
        let rest := applyAll context rules first.element
        { rest with events := first.events ++ rest.events }

/-- Applies the rules of a set in order up to the first fault. -/
def apply (set : RuleSet) (context : Rule.Context) (element : Element) :
    Rule.Outcome :=
  applyAll context set.rules element

end RuleSet

end MarkupHarden
