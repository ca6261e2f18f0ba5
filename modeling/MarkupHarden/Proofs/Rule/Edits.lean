import Mathlib.Data.List.Basic
import Mathlib.Data.List.Find
import Mathlib.Data.List.Induction
import MarkupHarden.Proofs.Rule.RuleSet

/-!
# Editing rule sets

A set is edited by adding rules and by removing built-in rules.  What an edit
does to the built-in rule of a name is independent of all other rules, so a set
amounts to a table of built-in rules by name and the list of its custom rules.
`Arranged` ties the two together, and each edit keeps it.  Each edit also keeps
the run order, so that adding a rule always amounts to a stable sort.
-/

namespace MarkupHarden

namespace RuleSet

/-- A change of a rule set. -/
inductive Edit where
  | insert (rule : Rule)
  | remove (name : String)
  | without (name : String)

namespace Edit

def apply (set : RuleSet) : Edit → RuleSet
  | insert rule => set.insert rule
  | remove name => (set.remove name).2
  | without name => set.without name

/-- What an edit makes of the built-in rule of a name, if it concerns it. -/
def verdict? (name : String) : Edit → Option (Option Rule)
  | insert rule =>
      if rule.isCustom = false ∧ rule.name = name then some (some rule)
      else none
  | remove gone | without gone => if gone = name then some none else none

/-- The custom rule that an edit adds. -/
def custom? : Edit → Option Rule
  | insert rule => if rule.isCustom then some rule else none
  | remove _ | without _ => none

end Edit

/-- The set after some edits, first to last. -/
def edited (start : RuleSet) (edits : List Edit) : RuleSet :=
  edits.foldl Edit.apply start

/-- The built-in rule of a name. -/
def builtinNamed? (set : RuleSet) (name : String) : Option Rule :=
  set.rules.find? fun rule => !rule.isCustom && rule.name = name

/-- The built-in rule of a name after some edits: the last edit that concerns
it decides, and without one it is what it was at the start. -/
def standing? (start : RuleSet) (edits : List Edit) (name : String) :
    Option Rule :=
  (edits.reverse.findSome? (Edit.verdict? name)).getD
    (start.builtinNamed? name)

/-- The custom rules that edits add, in the order in which they are added. -/
def addedCustoms (edits : List Edit) : List Rule :=
  edits.filterMap Edit.custom?

/-! ### Run order -/

section RunOrder

variable {start set : RuleSet} {edits : List Edit}

theorem Edit.ordered_apply (ordered : Ordered set.rules) (edit : Edit) :
    Ordered (edit.apply set).rules := by
  cases edit with
  | insert rule => exact ordered_insert ordered rule
  | remove name | without name => exact ordered_without ordered name

theorem ordered_edited (ordered : Ordered start.rules) (edits : List Edit) :
    Ordered (start.edited edits).rules := by
  induction edits generalizing start with
  | nil => exact ordered
  | cons edit edits induction => exact induction (edit.ordered_apply ordered)

/-- Whether an edit adds no custom rule. -/
def Edit.IsBuiltin (edit : Edit) : Prop :=
  edit.custom? = none

theorem OfBuiltins.apply_edit (built : OfBuiltins set) {edit : Edit}
    (builtin : edit.IsBuiltin) : OfBuiltins (edit.apply set) := by
  cases edit with
  | insert rule =>
      have notCustom : rule.isCustom = false := by
        simpa [Edit.IsBuiltin, Edit.custom?] using builtin
      exact built.insert notCustom
  | remove name | without name => exact built.without name

theorem OfBuiltins.edited (built : OfBuiltins start)
    (builtin : ∀ edit ∈ edits, edit.IsBuiltin) :
    OfBuiltins (start.edited edits) := by
  induction edits generalizing start with
  | nil => exact built
  | cons edit edits induction =>
      obtain ⟨first, rest⟩ := List.forall_mem_cons.mp builtin
      exact induction (built.apply_edit first) rest

private theorem ofBuiltins_start (known : start ∈ [empty, default]) :
    OfBuiltins start := by
  rcases List.mem_pair.mp known with rfl | rfl
  · exact ofBuiltins_empty
  · exact ofBuiltins_default

/-- Whatever built-in rules are added to the empty or the default set and
removed again, it holds built-in rules in run order, each at most once. -/
theorem ofBuiltins_edited (known : start ∈ [empty, default])
    (builtin : ∀ edit ∈ edits, edit.IsBuiltin) :
    OfBuiltins (start.edited edits) :=
  (ofBuiltins_start known).edited builtin

/-- In every set that the edits of the empty or the default one lead to, to add
a rule is to put it last and to sort. -/
theorem rules_insert_edited (known : start ∈ [empty, default])
    (edits : List Edit) (rule : Rule) :
    ((start.edited edits).insert rule).rules =
      sorted ((start.edited edits).pushed rule) :=
  rules_insert (ordered_edited (ofBuiltins_start known).runOrder edits) rule

end RunOrder

/-! ### Built-in rules by name -/

theorem order_eq_of_name_eq {rule other : Rule}
    (builtin : rule.isCustom = false) (otherBuiltin : other.isCustom = false)
    (same : rule.name = other.name) : rule.order = other.order := by
  cases rule <;> cases other <;>
    simp_all [Rule.order, Rule.isCustom, Rule.name]

theorem exists_mem_builtins {rule : Rule} (builtin : rule.isCustom = false) :
    ∃ known ∈ Rule.builtins, known.isCustom = false ∧ known.name = rule.name := by
  cases rule with
  | custom rule => contradiction
  | _ => simp [Rule.builtins, Rule.isCustom, Rule.name]

/-- Whether a table holds under each name a built-in rule of that name. -/
def IsTable (table : String → Option Rule) : Prop :=
  ∀ name rule, table name = some rule →
    rule.isCustom = false ∧ rule.name = name

/-- The rules that a table holds under the names of some built-in rules. -/
def picked (table : String → Option Rule) (known : List Rule) : List Rule :=
  known.filterMap fun rule => table rule.name

theorem picked_append (table : String → Option Rule) (first second : List Rule) :
    picked table (first ++ second) = picked table first ++ picked table second :=
  List.filterMap_append

theorem picked_cons (table : String → Option Rule) (known : Rule)
    (rest : List Rule) :
    picked table (known :: rest) =
      (table known.name).toList ++ picked table rest := by
  rw [picked, List.filterMap_cons]
  cases table known.name <;> rfl

/-- The rules of a table in run order. -/
def row (table : String → Option Rule) : List Rule :=
  picked table Rule.builtins

variable {table : String → Option Rule} {rule : Rule} {name : String}

theorem mem_row_iff (isTable : IsTable table) :
    rule ∈ row table ↔ table rule.name = some rule := by
  rw [row, picked, List.mem_filterMap]
  constructor
  · rintro ⟨known, -, found⟩
    rw [(isTable _ _ found).2]
    exact found
  · intro found
    obtain ⟨known, member, -, named⟩ :=
      exists_mem_builtins (isTable _ _ found).1
    exact ⟨known, member, named ▸ found⟩

theorem find?_row (isTable : IsTable table) (name : String) :
    (row table).find? (fun rule => rule.name = name) = table name := by
  cases found : table name with
  | none =>
      rw [List.find?_eq_none]
      intro rule member named
      rw [mem_row_iff isTable, of_decide_eq_true named, found] at member
      contradiction
  | some rule =>
      have named := (isTable name rule found).2
      have member : rule ∈ row table := by
        rw [mem_row_iff isTable, named, found]
      cases first : (row table).find? (fun rule => rule.name = name) with
      | none =>
          have absent := List.find?_eq_none.mp first rule member
          exact absurd (decide_eq_true named) absent
      | some other =>
          have otherNamed : other.name = name := by
            simpa using List.find?_some first
          have otherFound :=
            (mem_row_iff isTable).mp (List.mem_of_find?_eq_some first)
          rw [otherNamed, found] at otherFound
          exact otherFound.symm

private theorem names_picked_sublist (isTable : IsTable table)
    (known : List Rule) :
    ((picked table known).map Rule.name).Sublist (known.map Rule.name) := by
  induction known with
  | nil => exact List.Sublist.slnil
  | cons rule rest induction =>
      rw [picked_cons]
      cases found : table rule.name with
      | none => exact induction.cons _
      | some standing =>
          have named := (isTable _ _ found).2
          simpa [named] using induction.cons_cons rule.name

/-- The table without the rule of a name. -/
def cleared (table : String → Option Rule) (gone name : String) : Option Rule :=
  if gone = name then none else table name

theorem isTable_cleared (isTable : IsTable table) (gone : String) :
    IsTable (cleared table gone) := by
  intro name rule found
  unfold cleared at found
  split at found
  · contradiction
  · exact isTable name rule found

private theorem dropBuiltin_row (isTable : IsTable table) (gone : String) :
    dropBuiltin gone (row table) = row (cleared table gone) := by
  rw [dropBuiltin, row, picked, List.filter_filterMap, row, picked]
  refine List.filterMap_congr fun known _ => ?_
  unfold cleared
  cases found : table known.name with
  | none => simp
  | some rule =>
      obtain ⟨builtin, named⟩ := isTable _ _ found
      by_cases same : gone = known.name
      · simp [builtin, named, same, Option.filter]
      · simp [builtin, named, same, Ne.symm same, Option.filter]

/-- The table with a rule under its name. -/
def entered (table : String → Option Rule) (rule : Rule) (name : String) :
    Option Rule :=
  if rule.name = name then some rule else table name

theorem isTable_entered (isTable : IsTable table) {rule : Rule}
    (builtin : rule.isCustom = false) : IsTable (entered table rule) := by
  intro name other found
  unfold entered at found
  split at found
  next named =>
    cases found
    exact ⟨builtin, named⟩
  next => exact isTable name other found

/-! ### Places in the run order -/

private theorem place_append {rule : Rule} {before after : List Rule}
    (earlier : ∀ other ∈ before, other.order ≤ rule.order)
    (later : ∀ other ∈ after, rule.order < other.order) :
    place rule (before ++ after) = before ++ rule :: after := by
  induction before with
  | nil =>
      cases after with
      | nil => rfl
      | cons next rest =>
          exact if_pos (later next List.mem_cons_self)
  | cons next rest induction =>
      have notBefore := Nat.not_lt.mpr (earlier next List.mem_cons_self)
      rw [List.cons_append, place, if_neg notBefore, induction fun other member =>
        earlier other (List.mem_cons_of_mem _ member)]
      rfl

private theorem builtins_ordered :
    Rule.builtins.Pairwise fun first second => first.order < second.order := by
  decide

/-- What a table holds under the name of a built-in rule runs in its place. -/
private theorem exists_order_eq (isTable : IsTable table) {known : List Rule}
    (builtin : ∀ other ∈ known, other.isCustom = false)
    (member : rule ∈ picked table known) :
    ∃ other ∈ known, rule.order = other.order := by
  obtain ⟨other, otherMember, found⟩ := List.mem_filterMap.mp member
  obtain ⟨ruleBuiltin, named⟩ := isTable _ _ found
  exact ⟨other, otherMember,
    order_eq_of_name_eq ruleBuiltin (builtin other otherMember) named⟩

/-- An entry matters only to the built-in rule that has its place. -/
private theorem picked_entered (table : String → Option Rule)
    (builtin : rule.isCustom = false) {known : List Rule}
    (apart : ∀ other ∈ known,
      other.isCustom = false ∧ other.order ≠ rule.order) :
    picked (entered table rule) known =
      picked (cleared table rule.name) known := by
  refine List.filterMap_congr fun other member => ?_
  obtain ⟨otherBuiltin, different⟩ := apart other member
  have names : rule.name ≠ other.name := fun same =>
    different (order_eq_of_name_eq builtin otherBuiltin same).symm
  rw [entered, if_neg names, cleared, if_neg names]

/-- The row of a table around the place of a built-in rule. -/
private theorem exists_row_around (table : String → Option Rule)
    (builtin : rule.isCustom = false) :
    ∃ before after,
      (∀ other ∈ before, other.isCustom = false ∧ other.order < rule.order) ∧
      (∀ other ∈ after, other.isCustom = false ∧ rule.order < other.order) ∧
      row (cleared table rule.name) =
        picked (cleared table rule.name) before ++
          picked (cleared table rule.name) after ∧
      row (entered table rule) =
        picked (cleared table rule.name) before ++
          rule :: picked (cleared table rule.name) after := by
  obtain ⟨known, member, knownBuiltin, named⟩ := exists_mem_builtins builtin
  obtain ⟨before, after, split⟩ := List.append_of_mem member
  have order : known.order = rule.order :=
    order_eq_of_name_eq knownBuiltin builtin named
  have areBuiltin : ∀ other ∈ before ++ known :: after,
      other.isCustom = false := by
    rw [← split]
    decide
  have ordered := builtins_ordered
  rw [split, List.pairwise_append, List.pairwise_cons, order] at ordered
  obtain ⟨-, ⟨later, -⟩, across⟩ := ordered
  have isBefore : ∀ other ∈ before,
      other.isCustom = false ∧ other.order < rule.order := fun other inside =>
    ⟨areBuiltin other (List.mem_append_left _ inside),
      order ▸ across other inside known List.mem_cons_self⟩
  have isAfter : ∀ other ∈ after,
      other.isCustom = false ∧ rule.order < other.order := fun other inside =>
    ⟨areBuiltin other (List.mem_append_right _ (List.mem_cons_of_mem _ inside)),
      later other inside⟩
  have sameBefore := picked_entered table builtin fun other inside =>
    (isBefore other inside).imp_right Nat.ne_of_lt
  have sameAfter := picked_entered table builtin fun other inside =>
    (isAfter other inside).imp_right Nat.ne_of_gt
  have absent : cleared table rule.name known.name = none := if_pos named.symm
  have present : entered table rule known.name = some rule := if_pos named.symm
  refine ⟨before, after, isBefore, isAfter, ?_, ?_⟩
  · rw [row, split, picked_append, picked_cons, absent]
    rfl
  · rw [row, split, picked_append, picked_cons, present, sameBefore, sameAfter]
    rfl

/-- A built-in rule is placed where the table has the one of its name. -/
private theorem place_row (isTable : IsTable table)
    (builtin : rule.isCustom = false) {customs : List Rule}
    (areCustom : ∀ rule ∈ customs, rule.isCustom = true) :
    place rule (row (cleared table rule.name) ++ customs) =
      row (entered table rule) ++ customs := by
  obtain ⟨before, after, isBefore, isAfter, clearedRow, enteredRow⟩ :=
    exists_row_around table builtin
  have isTableCleared := isTable_cleared isTable rule.name
  rw [clearedRow, enteredRow, List.append_assoc, List.append_assoc]
  refine place_append ?_ ?_
  · intro other inside
    obtain ⟨place, inBefore, same⟩ := exists_order_eq isTableCleared
      (fun other inside => (isBefore other inside).1) inside
    exact same ▸ Nat.le_of_lt (isBefore place inBefore).2
  · intro other inside
    rcases List.mem_append.mp inside with entry | custom
    · obtain ⟨place, inAfter, same⟩ := exists_order_eq isTableCleared
        (fun other inside => (isAfter other inside).1) entry
      exact same ▸ (isAfter place inAfter).2
    · have isCustom := areCustom other custom
      cases other with
      | custom _ => exact Rule.order_lt_of_builtin builtin
      | _ => contradiction

/-! ### Arranged sets -/

/-- A set consists of the rules of a table in run order and of custom rules
behind them. -/
structure Arranged (set : RuleSet) (table : String → Option Rule)
    (customs : List Rule) : Prop where
  rules : set.rules = row table ++ customs
  isTable : IsTable table
  areCustom : ∀ rule ∈ customs, rule.isCustom = true

theorem arranged_empty : Arranged empty (empty.builtinNamed? ·) [] where
  rules := rfl
  isTable := fun _ _ found => by contradiction
  areCustom := fun _ member => by contradiction

theorem arranged_default : Arranged default (default.builtinNamed? ·) [] where
  rules := rfl
  isTable := by
    intro name rule found
    simpa using List.find?_some found
  areCustom := fun _ member => by contradiction

namespace Arranged

variable {set : RuleSet} {customs : List Rule}

theorem builtinNamed? (arranged : Arranged set table customs)
    (name : String) : set.builtinNamed? name = table name := by
  have noCustom : customs.find?
      (fun rule => !rule.isCustom && rule.name = name) = none := by
    rw [List.find?_eq_none]
    intro rule member
    simp [arranged.areCustom rule member]
  have sameTest : (row table).find?
      (fun rule => !rule.isCustom && rule.name = name) =
        (row table).find? (fun rule => rule.name = name) := by
    apply List.find?_congr
    intro rule member
    have builtin := (arranged.isTable _ _
      ((mem_row_iff arranged.isTable).mp member)).1
    simp [builtin]
  rw [RuleSet.builtinNamed?, arranged.rules, List.find?_append, noCustom,
    Option.or_none, sameTest, find?_row arranged.isTable]

theorem find? (arranged : Arranged set table customs) (name : String) :
    set.find? name =
      (table name).or (customs.find? fun rule => rule.name = name) := by
  rw [RuleSet.find?, arranged.rules, List.find?_append,
    find?_row arranged.isTable]

theorem isCustom_of_mem (arranged : Arranged set table []) {rule : Rule}
    (member : rule ∈ set.rules) : rule.isCustom = false := by
  rw [arranged.rules, List.append_nil, mem_row_iff arranged.isTable] at member
  exact (arranged.isTable _ _ member).1

theorem names_sublist (arranged : Arranged set table []) :
    set.names.Sublist (Rule.builtins.map Rule.name) := by
  rw [names, arranged.rules, List.append_nil]
  exact names_picked_sublist arranged.isTable _

/-- Without the built-in rule of a name its entry in the table is empty. -/
theorem without (arranged : Arranged set table customs) (gone : String) :
    Arranged (set.without gone) (cleared table gone) customs where
  rules := by
    have kept : dropBuiltin gone customs = customs := by
      rw [dropBuiltin, List.filter_eq_self]
      intro rule member
      simp [arranged.areCustom rule member]
    calc
      dropBuiltin gone set.rules
          = dropBuiltin gone (row table) ++ dropBuiltin gone customs := by
        rw [arranged.rules]
        exact List.filter_append ..
      _ = row (cleared table gone) ++ customs := by
        rw [dropBuiltin_row arranged.isTable, kept]
  isTable := isTable_cleared arranged.isTable gone
  areCustom := arranged.areCustom

/-- The flag of a removal tells whether the name had a built-in rule. -/
theorem remove_fst (arranged : Arranged set table customs) (gone : String) :
    (set.remove gone).1 = (table gone).isSome := by
  have shorter : (set.without gone).rules.length = set.rules.length ↔
      set.builtinNamed? gone = none := by
    rw [RuleSet.without, dropBuiltin, List.length_filter_eq_length_iff,
      RuleSet.builtinNamed?, List.find?_eq_none]
    refine forall₂_congr fun rule _ => ?_
    cases rule.isCustom <;> simp
  rw [arranged.builtinNamed? gone] at shorter
  rw [RuleSet.remove]
  cases found : table gone with
  | none => simp [shorter.mpr found]
  | some rule =>
      rw [found] at shorter
      simp [shorter]

/-- A custom rule goes behind all rules. -/
theorem insert_custom (arranged : Arranged set table customs) {rule : Rule}
    (custom : rule.isCustom = true) :
    Arranged (set.insert rule) table (customs ++ [rule]) where
  rules := by
    have order_le : ∀ other ∈ set.rules, other.order ≤ rule.order := by
      intro other _
      cases rule with
      | custom rule => cases other <;> simp [Rule.order]
      | _ => contradiction
    have last := place_append order_le
      (fun other member => absurd member List.not_mem_nil)
    rw [List.append_nil] at last
    rw [RuleSet.insert, if_pos custom, last, arranged.rules, List.append_assoc]
  isTable := arranged.isTable
  areCustom := by
    intro other member
    rcases List.mem_append.mp member with old | new
    · exact arranged.areCustom other old
    · rw [List.mem_singleton.mp new]
      exact custom

/-- A built-in rule takes the place of the one of its name. -/
theorem insert_builtin (arranged : Arranged set table customs) {rule : Rule}
    (builtin : rule.isCustom = false) :
    Arranged (set.insert rule) (entered table rule) customs where
  rules := by
    have dropped : dropBuiltin rule.name set.rules =
        row (cleared table rule.name) ++ customs :=
      (arranged.without rule.name).rules
    rw [RuleSet.insert, if_neg (by simp [builtin]), dropped]
    exact place_row arranged.isTable builtin arranged.areCustom
  isTable := isTable_entered arranged.isTable builtin
  areCustom := arranged.areCustom

/-- An edit changes the entry that it concerns and adds its custom rule. -/
theorem apply (arranged : Arranged set table customs) (edit : Edit) :
    Arranged (edit.apply set)
      (fun name => (edit.verdict? name).getD (table name))
      (customs ++ edit.custom?.toList) := by
  have gone (name : String) : Arranged (set.without name)
      (fun other => (if name = other then some none else none).getD (table other))
      (customs ++ []) := by
    have same : (fun other =>
        (if name = other then some none else none).getD (table other)) =
          cleared table name := by
      funext other
      rw [cleared]
      split <;> rfl
    rw [same, List.append_nil]
    exact arranged.without name
  cases edit with
  | remove name => exact gone name
  | without name => exact gone name
  | insert rule =>
      cases builtin : rule.isCustom with
      | true =>
          simpa [Edit.apply, Edit.verdict?, Edit.custom?, builtin] using
            arranged.insert_custom builtin
      | false =>
          have same : (fun name =>
              ((Edit.insert rule).verdict? name).getD (table name)) =
                entered table rule := by
            funext name
            by_cases named : rule.name = name <;>
              simp [Edit.verdict?, entered, builtin, named]
          rw [same]
          simpa [Edit.apply, Edit.custom?, builtin] using
            arranged.insert_builtin builtin

theorem edited {start : RuleSet} (arranged : Arranged start table [])
    (edits : List Edit) :
    Arranged (start.edited edits)
      (fun name =>
        (edits.reverse.findSome? (Edit.verdict? name)).getD (table name))
      (addedCustoms edits) := by
  induction edits using List.reverseRecOn with
  | nil => exact arranged
  | append_singleton edits edit induction =>
      have last := induction.apply edit
      have customs : addedCustoms (edits ++ [edit]) =
          addedCustoms edits ++ edit.custom?.toList := by
        rw [addedCustoms, List.filterMap_append]
        cases added : edit.custom? <;> simp [addedCustoms, added]
      have table_eq : (fun name => ((edits ++ [edit]).reverse.findSome?
          (Edit.verdict? name)).getD (table name)) =
            fun name => (edit.verdict? name).getD
              ((edits.reverse.findSome? (Edit.verdict? name)).getD
                (table name)) := by
        funext name
        cases decided : edit.verdict? name <;> simp [decided]
      rw [RuleSet.edited, List.foldl_append, customs, table_eq]
      exact last

end Arranged

/-- Whatever the edits of the empty or the default set, what remains are the
built-in rules that stand, in run order, and all added custom rules behind them;
a removal tells whether a built-in rule stood, and a name finds the built-in
rule before any custom one. -/
theorem rules_edited {start : RuleSet} (known : start ∈ [empty, default])
    (edits : List Edit) :
    (start.edited edits).rules =
        Rule.builtins.filterMap (fun rule => start.standing? edits rule.name) ++
          addedCustoms edits ∧
      ∀ name,
        (∀ rule ∈ start.standing? edits name,
            rule.isCustom = false ∧ rule.name = name) ∧
          ((start.edited edits).remove name).1 =
            (start.standing? edits name).isSome ∧
          (start.edited edits).find? name =
            (start.standing? edits name).or
              ((addedCustoms edits).find? fun rule => rule.name = name) := by
  have arranged : Arranged start (start.builtinNamed? ·) [] := by
    rcases List.mem_pair.mp known with rfl | rfl
    · exact arranged_empty
    · exact arranged_default
  have after := arranged.edited edits
  exact ⟨after.rules, fun name =>
    ⟨fun rule found => after.isTable name rule found, after.remove_fst name,
      after.find? name⟩⟩

/-- A custom rule with the name of a built-in one. -/
def namesake (policy : Rule.ReferrerPolicy) : Rule :=
  .custom
    { name := "noopener"
      apply := fun _ element => (none, Rule.setReferrerPolicy policy element) }

/-- Edits among which the name of a built-in rule is taken twice by custom
ones. -/
def clashingEdits : List Edit :=
  [.insert (namesake .origin), .remove "noopener",
    .insert (.validateUri { schemes := ["mailto"] }), .without "blankTarget",
    .insert (namesake .unset), .insert .blankTarget, .remove "noopener"]

theorem rules_edited_clashing :
    default ∈ [empty, default] ∧
      (default.edited clashingEdits).rules =
        [.blankTarget, .httpsLinks, .httpsForms,
          .validateUri { schemes := ["mailto"] },
          .referrerPolicy .default, namesake .origin, namesake .unset] ∧
      ((default.edited clashingEdits).remove "noopener").1 = false ∧
      (default.edited clashingEdits).find? "noopener" =
        some (namesake .origin) := by
  have known : default ∈ [empty, default] := by simp
  obtain ⟨rules, byName⟩ := rules_edited known clashingEdits
  obtain ⟨-, removed, found⟩ := byName "noopener"
  exact ⟨known, rules.trans rfl, removed.trans rfl, found.trans rfl⟩

end RuleSet

end MarkupHarden
