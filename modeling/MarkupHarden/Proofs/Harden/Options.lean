import MarkupHarden.Harden.Options
import MarkupHarden.Proofs.Json.DistinctKeys
import MarkupHarden.Proofs.Rule.Edits
import MarkupHarden.Proofs.Rule.Guarantee
import MarkupHarden.Proofs.Rule.SchemeList

/-!
# What options a value stands for

Options are read key by key, whatever the order of the keys and whatever other
keys there are.  `StandsFor` says for each key what it means; the rules are
found by following how each entry of the table of rules changes the set that
the entries before it have built.  Whatever the value is, its rules and its base
URL are such that a traversal has its guarantees.
-/

namespace MarkupHarden

namespace Json

/-- The members of a value; only objects have any. -/
def members : Json → Members
  | object members => members
  | _ => []

/-- The value under a key of an object. -/
def member? (key : String) (value : Json) : Option Json :=
  value.members.find? key

/-- The text of a string. -/
def string? : Json → Option String
  | string text => some text
  | _ => none

theorem isNull_iff {value : Json} : value.isNull = true ↔ value = null := by
  cases value <;> simp [isNull]

theorem Members.find?_eq_none {key : String} {members : Members}
    (absent : key ∉ members.map Prod.fst) : members.find? key = none := by
  induction members with
  | nil => rfl
  | cons pair rest induction =>
      rw [List.map_cons, List.mem_cons, not_or] at absent
      rw [find?, if_neg (Ne.symm absent.1), induction absent.2]

theorem Members.mem_of_find? {key : String} {members : Members} {value : Json}
    (found : members.find? key = some value) : (key, value) ∈ members := by
  induction members with
  | nil => contradiction
  | cons pair rest induction =>
      rw [find?] at found
      split at found
      next same =>
        cases found
        exact same ▸ List.mem_cons_self
      next => exact List.mem_cons_of_mem _ (induction found)

end Json

namespace Options

open Json (Members)

/-! ### Meaning -/

/-- The value that lists the allowed schemes: the one under `schemes`, or, if
there is none or it is null, the one under `validSchemes`. -/
inductive ListsSchemes (entry : Members) : Option Json → Prop where
  | schemes {value : Json} :
      entry.find? "schemes" = some value → value ≠ .null →
      ListsSchemes entry (some value)
  | validSchemes :
      (∀ value, entry.find? "schemes" = some value → value = .null) →
      ListsSchemes entry (entry.find? "validSchemes")

/-- The schemes that an entry allows. -/
structure SchemesMeant (entry : Members) (schemes : Rule.SchemeList) :
    Prop where
  listed : ∀ items, ListsSchemes entry (some (.array items)) →
    schemes = .lenient (items.filterMap Json.string?)
  noneValid : ∀ items, ListsSchemes entry (some (.array items)) →
    (∀ text, Json.string text ∈ items → Rule.normalScheme? text = none) →
      schemes = .default
  noList : ∀ value, ListsSchemes entry value →
    (∀ items, value ≠ some (.array items)) → schemes = .default

/-- The policy that an entry names. -/
structure PolicyMeant (entry : Members) (policy : Rule.ReferrerPolicy) :
    Prop where
  token : ∀ text (known : Rule.ReferrerPolicy),
    entry.find? "policy" = some (.string text) →
    Text.sameIgnoringCase known.token (Text.trim text) = true → policy = known
  noToken : (∀ text (known : Rule.ReferrerPolicy),
    entry.find? "policy" = some (.string text) →
    Text.sameIgnoringCase known.token (Text.trim text) = false) →
      policy = .noReferrer

/-- The rule that a value other than false and null makes of a built-in one. -/
inductive Configures : Rule → Json → Rule → Prop where
  | schemes {entry : Members} {schemes : Rule.SchemeList} :
      SchemesMeant entry schemes →
      Configures (.validateUri .default) (.object entry) (.validateUri schemes)
  | policy {entry : Members} {policy : Rule.ReferrerPolicy} :
      PolicyMeant entry policy →
      Configures (.referrerPolicy .default) (.object entry)
        (.referrerPolicy policy)
  | withoutOptions {known : Rule} {value : Json} :
      known.name ∉ ["validateURI", "referrerPolicy"] →
      Configures known value known
  | byDefault {known : Rule} {value : Json} :
      (∀ entry, value ≠ .object entry) → Configures known value known

/-- Options are what a value says key by key. -/
structure StandsFor (config : Json) (options : Options) : Prop where
  wholeDocument : options.wholeDocument = true ↔
    config.member? "wholeDocument" = some (.bool true)
  returnTree : ∀ value, config.member? "returnTree" = some value →
    value ≠ .null → (options.returnTree = true ↔ value = .bool true)
  returnDom : (∀ value, config.member? "returnTree" = some value →
    value = .null) → (options.returnTree = true ↔
      config.member? "returnDOM" = some (.bool true))
  builtin : ∀ rule ∈ options.rules.rules, rule.isCustom = false
  ordered : options.rules.names.Sublist (Rule.builtins.map Rule.name)
  distinct : options.rules.names.Nodup
  defaultRules : (∀ entries, config.member? "rules" ≠ some (.object entries)) →
    options.rules = .default
  present : ∀ entries : Members,
    config.member? "rules" = some (.object entries) →
    ∀ known ∈ Rule.builtins, options.rules.contains known.name = true ↔
      ∃ value, entries.find? known.name = some value ∧
        value ≠ .bool false ∧ value ≠ .null
  configured : ∀ entries : Members,
    config.member? "rules" = some (.object entries) →
    ∀ known ∈ Rule.builtins, ∀ rule,
      options.rules.find? known.name = some rule →
      ∃ value, entries.find? known.name = some value ∧
        Configures known value rule
  baseUrl : ∀ url, options.baseUrl = some url ↔ ∃ text,
    config.member? "baseUrl" = some (.string text) ∧
      Url.Resolver.ofBase text = .ok { base := some url }

/-! ### Agreement -/

/-- The keys that matter in the entry of a rule. -/
def recognizedKeys : Rule → List String
  | .validateUri _ => ["schemes", "validSchemes"]
  | .referrerPolicy _ => ["policy"]
  | _ => []

/-- Equal values, or two objects whose members are related. -/
inductive SameUpTo (related : Members → Members → Prop) :
    Option Json → Option Json → Prop where
  | same (value : Option Json) : SameUpTo related value value
  | objects {first second : Members} :
      related first second →
      SameUpTo related (some (.object first)) (some (.object second))

/-- Entries with the same values under some keys. -/
def AgreeOn (keys : List String) (first second : Members) : Prop :=
  ∀ key ∈ keys, first.find? key = second.find? key

/-- Tables with the same entries for the built-in rules, other keys in these
entries aside. -/
def AgreeOnRules (first second : Members) : Prop :=
  ∀ known ∈ Rule.builtins,
    SameUpTo (AgreeOn (recognizedKeys known))
      (first.find? known.name) (second.find? known.name)

/-- Values that agree on every key that matters. -/
structure Agree (first second : Json) : Prop where
  plain : AgreeOn ["wholeDocument", "returnTree", "returnDOM", "baseUrl"]
    first.members second.members
  rules : SameUpTo AgreeOnRules (first.member? "rules")
    (second.member? "rules")

/-! ### Flags -/

private theorem value_flag {key : String} {value : Json} :
    (flag key value).value = true ↔ value = .bool true := by
  cases value <;> simp [flag]

private theorem value_flagUnder {key : String} {record : Members} :
    (flagUnder key record).value = true ↔
      record.find? key = some (.bool true) := by
  unfold flagUnder
  split
  next value found => rw [value_flag, found, Option.some_inj]
  next found => simp [found]

private theorem findSome?_of_find? {key : String} {record : Members}
    {value : Json} (found : record.find? key = some value)
    (notNull : value ≠ .null) : record.findSome? key = some value := by
  have kept : value.isNull = false :=
    Bool.eq_false_iff.mpr fun isNull => notNull (Json.isNull_iff.mp isNull)
  simp [Members.findSome?, found, Option.filter, kept]

private theorem findSome?_eq_none {key : String} {record : Members}
    (nothing : ∀ value, record.find? key = some value → value = .null) :
    record.findSome? key = none := by
  rw [Members.findSome?, Option.filter_eq_none_iff]
  intro value found
  simp [nothing value found, Json.isNull]

/-! ### Entries of rules -/

theorem value_stringEntries (items : List Json) :
    (stringEntries items).value = items.filterMap Json.string? := by
  induction items with
  | nil => rfl
  | cons item items induction =>
      cases item <;>
        simp [stringEntries, Json.string?, induction, List.filterMap_cons]

theorem value_schemesOf (items : List Json) :
    (schemesOf items).value = .lenient (items.filterMap Json.string?) := by
  rw [← value_stringEntries]
  unfold schemesOf
  simp only [Logged.value_bind]
  split <;> rfl

/-- The list that an entry means is the one under the first key that has a
value other than null. -/
theorem ListsSchemes.eq {entry : Members} {value : Option Json}
    (lists : ListsSchemes entry value) :
    (entry.findSome? "schemes").or (entry.find? "validSchemes") = value := by
  cases lists with
  | schemes found notNull =>
      rw [findSome?_of_find? found notNull, Option.some_or]
  | validSchemes nothing => rw [findSome?_eq_none nothing, Option.none_or]

theorem schemesMeant_readSchemes (entry : Members) :
    SchemesMeant entry (readSchemes entry).value where
  listed := by
    intro items lists
    rw [readSchemes, lists.eq]
    exact value_schemesOf items
  noneValid := by
    intro items lists noneValid
    rw [readSchemes, lists.eq]
    refine (value_schemesOf items).trans
      (Rule.SchemeList.lenient_of_noneValid ?_)
    intro text member
    rw [← Rule.normalScheme?_eq_none_iff]
    obtain ⟨item, inside, isText⟩ := List.mem_filterMap.mp member
    cases item with
    | string other =>
        cases isText
        exact noneValid text inside
    | _ => contradiction
  noList := by
    intro value lists noArray
    rw [readSchemes, lists.eq]
    match value with
    | none | some .null | some (.bool _) | some (.number _)
    | some (.string _) | some (.object _) => rfl
    | some (.array items) => exact absurd rfl (noArray items)

private theorem ofToken?_of_same {text : String} {known : Rule.ReferrerPolicy}
    (same : Text.sameIgnoringCase known.token (Text.trim text) = true) :
    Rule.ReferrerPolicy.ofToken? text = some known := by
  have separate : ∀ first second : Rule.ReferrerPolicy,
      Text.lower first.token = Text.lower second.token → first = second := by
    intro first second
    cases first <;> cases second <;> decide
  unfold Rule.ReferrerPolicy.ofToken?
  cases found : Rule.ReferrerPolicy.all.find? fun policy =>
      Text.sameIgnoringCase policy.token (Text.trim text) with
  | none =>
      have different := List.find?_eq_none.mp found known
        (Rule.ReferrerPolicy.mem_all known)
      exact absurd same different
  | some policy =>
      have alsoSame := List.find?_some found
      simp only [Text.sameIgnoringCase, beq_iff_eq] at same alsoSame
      rw [separate policy known (alsoSame.trans same.symm)]

theorem policyMeant_readPolicy (entry : Members) :
    PolicyMeant entry (readPolicy entry).value where
  token := by
    intro text known found same
    rw [readPolicy, found]
    dsimp only
    rw [ofToken?_of_same same]
    rfl
  noToken := by
    intro noToken
    unfold readPolicy
    split
    · rfl
    · rfl
    next text found =>
      have unknown : Rule.ReferrerPolicy.ofToken? text = none :=
        List.find?_eq_none.mpr fun known _ =>
          Bool.eq_false_iff.mp (noToken text known found)
      rw [unknown]
      rfl
    · rfl

/-! ### Rules -/

/-- The rule that an entry makes of a built-in one, if it enables it. -/
def enabled? (known : Rule) : Json → Option Rule
  | .bool false | .null => none
  | .object entry => some (configure known entry).value
  | _ => some known

/-- What a table of rules makes of the built-in rule of a name. -/
def enabledIn? (entries : Members) (name : String) : Option Rule :=
  (Rule.builtin? name).bind fun known =>
    (entries.find? name).bind (enabled? known)

private theorem configure_frame (known : Rule) (entry : Members) :
    (configure known entry).value.isCustom = known.isCustom ∧
      (configure known entry).value.name = known.name := by
  cases known <;> exact ⟨rfl, rfl⟩

private theorem enabled?_frame {known rule : Rule} {value : Json}
    (enabled : enabled? known value = some rule) :
    rule.isCustom = known.isCustom ∧ rule.name = known.name := by
  unfold enabled? at enabled
  split at enabled
  · contradiction
  · contradiction
  · cases enabled
    exact configure_frame known _
  · cases enabled
    exact ⟨rfl, rfl⟩

theorem enabled?_isSome {known : Rule} {value : Json} :
    (enabled? known value).isSome = true ↔
      value ≠ .bool false ∧ value ≠ .null := by
  match value with
  | .null | .bool false | .bool true | .number _ | .string _ | .array _
  | .object _ => simp [enabled?]

theorem configures_of_enabled? {known rule : Rule} {value : Json}
    (member : known ∈ Rule.builtins)
    (enabled : enabled? known value = some rule) :
    Configures known value rule := by
  unfold enabled? at enabled
  split at enabled
  · contradiction
  · contradiction
  next entry =>
    cases enabled
    simp only [Rule.builtins, List.mem_cons, List.not_mem_nil, or_false]
      at member
    rcases member with rfl | rfl | rfl | rfl | rfl | rfl
    · exact .withoutOptions (by decide)
    · exact .withoutOptions (by decide)
    · exact .withoutOptions (by decide)
    · exact .withoutOptions (by decide)
    · exact .schemes (schemesMeant_readSchemes entry)
    · exact .policy (policyMeant_readPolicy entry)
  next notObject =>
    cases enabled
    exact .byDefault notObject

private theorem value_enable (set : RuleSet) (known : Rule) (value : Json) :
    (enable set known value).value =
      ((enabled? known value).map set.insert).getD set := by
  match value with
  | .null | .bool false | .bool true | .number _ | .string _ | .array _
  | .object _ => rfl

theorem builtin?_spec {name : String} {known : Rule}
    (found : Rule.builtin? name = some known) :
    known ∈ Rule.builtins ∧ known.name = name :=
  ⟨List.mem_of_find?_eq_some found, by simpa using List.find?_some found⟩

private theorem builtin?_name {known : Rule} (member : known ∈ Rule.builtins) :
    Rule.builtin? known.name = some known := by
  simp only [Rule.builtins, List.mem_cons, List.not_mem_nil, or_false]
    at member
  rcases member with rfl | rfl | rfl | rfl | rfl | rfl <;> rfl

private theorem notCustom_of_mem {known : Rule}
    (member : known ∈ Rule.builtins) : known.isCustom = false := by
  have all : ∀ known ∈ Rule.builtins, known.isCustom = false := by decide
  exact all known member

variable {set : RuleSet} {table : String → Option Rule} {entries : Members}

/-- One entry changes what the set has under its key. -/
private theorem enable_arranged (arranged : set.Arranged table [])
    {known : Rule} (member : known ∈ Rule.builtins) (value : Json) :
    (enable set known value).value.Arranged
      (fun name => (if known.name = name then enabled? known value
        else none).or (table name)) [] := by
  rw [value_enable]
  cases enabled : enabled? known value with
  | none =>
      simpa using arranged
  | some rule =>
      obtain ⟨sameKind, sameName⟩ := enabled?_frame enabled
      have inserted := arranged.insert_builtin
        (sameKind.trans (notCustom_of_mem member))
      have entered : RuleSet.entered table rule =
          fun name => (if known.name = name then some rule
            else none).or (table name) := by
        funext name
        rw [RuleSet.entered, sameName]
        split <;> rfl
      rw [entered] at inserted
      exact inserted

private theorem enabledIn?_of_absent {key : String}
    (absent : key ∉ entries.map Prod.fst) : enabledIn? entries key = none := by
  rw [enabledIn?, Members.find?_eq_none absent]
  cases Rule.builtin? key <;> rfl

private theorem enabledIn?_cons (key name : String) (value : Json) :
    enabledIn? ((key, value) :: entries) name =
      if key = name then
        (Rule.builtin? key).bind fun known => enabled? known value
      else enabledIn? entries name := by
  by_cases isKey : key = name
  · subst isKey
    simp [enabledIn?, Members.find?]
  · simp [enabledIn?, Members.find?, isKey]

/-- After all entries the set has what each of them makes of its rule, in
whatever order they come. -/
theorem enableAll_arranged (arranged : set.Arranged table [])
    (distinct : (entries.map Prod.fst).Nodup) :
    (enableAll set entries).value.Arranged
      (fun name => (enabledIn? entries name).or (table name)) [] := by
  induction entries generalizing set table with
  | nil =>
      have nothing : (fun name => (enabledIn? [] name).or (table name)) =
          table := by
        funext name
        rw [enabledIn?_of_absent List.not_mem_nil, Option.none_or]
      rw [nothing]
      exact arranged
  | cons pair rest induction =>
      obtain ⟨key, value⟩ := pair
      obtain ⟨keyAbsent, distinct⟩ := List.nodup_cons.mp distinct
      have absent := enabledIn?_of_absent keyAbsent
      cases found : Rule.builtin? key with
      | none =>
          have same : enabledIn? ((key, value) :: rest) = enabledIn? rest := by
            funext name
            rw [enabledIn?_cons, found]
            split
            next isKey => rw [← isKey, absent, Option.bind_none]
            next => rfl
          rw [enableAll, found, same]
          exact induction arranged distinct
      | some known =>
          obtain ⟨member, named⟩ := builtin?_spec found
          have all := induction (enable_arranged arranged member value) distinct
          have same : (fun name => (enabledIn? rest name).or
              ((if known.name = name then enabled? known value
                else none).or (table name))) =
              fun name => (enabledIn? ((key, value) :: rest) name).or
                (table name) := by
            funext name
            rw [enabledIn?_cons, found, named]
            split
            next isKey =>
              rw [← isKey, absent, Option.none_or, Option.bind_some]
            next => rw [Option.none_or]
          rw [enableAll, found, ← same]
          exact all

/-- The set of a table of rules. -/
private theorem readRules_arranged {record : Members}
    (found : record.find? "rules" = some (.object entries))
    (distinct : (entries.map Prod.fst).Nodup) :
    (readRules record).value.Arranged (enabledIn? entries) [] := by
  have all := enableAll_arranged RuleSet.arranged_empty distinct
  have same : (fun name =>
      (enabledIn? entries name).or (RuleSet.empty.builtinNamed? name)) =
        enabledIn? entries := by
    funext name
    exact Option.or_none
  rw [same] at all
  rw [readRules, found]
  exact all

private theorem readRules_default {record : Members}
    (noTable : ∀ entries, record.find? "rules" ≠ some (.object entries)) :
    (readRules record).value = .default := by
  unfold readRules
  split
  · rfl
  · rfl
  next entries found => exact absurd found (noTable entries)
  · rfl

/-! ### The record -/

private theorem value_readBaseUrl {record : Members} {url : Url} :
    (readBaseUrl record).value = some url ↔ ∃ text,
      record.find? "baseUrl" = some (.string text) ∧
        Url.Resolver.ofBase text = .ok { base := some url } := by
  unfold readBaseUrl
  split
  next found => simp [found]
  next found => simp [found]
  next text found =>
    cases read : Url.Resolver.ofBase text with
    | error fault => simp [found, read]
    | ok resolver =>
        obtain ⟨base⟩ := resolver
        simp [found, read]
  next other _ notText found =>
    constructor
    · intro impossible
      contradiction
    · rintro ⟨text, isText, -⟩
      rw [found, Option.some_inj] at isText
      exact absurd isText (notText text)

private theorem value_resolve (config : Json) :
    (resolve config).value =
      { wholeDocument := (flagUnder "wholeDocument" config.members).value
        returnTree := (readReturnTree config.members).value
        rules := (readRules config.members).value
        baseUrl := (readBaseUrl config.members).value } := by
  cases config <;> rfl

theorem nodup_of_member? {config : Json}
    (distinct : config.DistinctKeys)
    (found : config.member? "rules" = some (.object entries)) :
    (entries.map Prod.fst).Nodup := by
  cases config with
  | object members =>
      have inside := (Json.distinctKeys_object.mp distinct).2 _
        (Members.mem_of_find? found)
      exact (Json.distinctKeys_object.mp inside).1
  | _ => contradiction

/-- Built-in rules in run order, whatever the table of rules is. -/
private theorem exists_arranged {config : Json}
    (distinct : config.DistinctKeys) :
    ∃ table, (resolve config).value.rules.Arranged table [] := by
  rw [value_resolve]
  by_cases isTable : ∃ entries, config.member? "rules" = some (.object entries)
  · obtain ⟨entries, found⟩ := isTable
    exact ⟨_, readRules_arranged found (nodup_of_member? distinct found)⟩
  · have default := readRules_default (not_exists.mp isTable)
    exact ⟨_, default ▸ RuleSet.arranged_default⟩

private theorem find?_resolve {config : Json} (distinct : config.DistinctKeys)
    (found : config.member? "rules" = some (.object entries)) {known : Rule}
    (member : known ∈ Rule.builtins) :
    (resolve config).value.rules.find? known.name =
      (entries.find? known.name).bind (enabled? known) := by
  have arranged :=
    readRules_arranged found (nodup_of_member? distinct found)
  rw [value_resolve, arranged.find? known.name, List.find?_nil, Option.or_none,
    enabledIn?, builtin?_name member, Option.bind_some]

theorem standsFor_resolve {config : Json} (distinct : config.DistinctKeys) :
    StandsFor config (resolve config).value := by
  obtain ⟨table, arranged⟩ := exists_arranged distinct
  exact
    { wholeDocument := by
        rw [value_resolve]
        exact value_flagUnder
      returnTree := by
        intro value found notNull
        rw [value_resolve]
        dsimp only
        rw [readReturnTree, findSome?_of_find? found notNull]
        exact value_flag
      returnDom := by
        intro nothing
        rw [value_resolve]
        dsimp only
        rw [readReturnTree, findSome?_eq_none nothing]
        exact value_flagUnder
      builtin := fun _ => arranged.isCustom_of_mem
      ordered := arranged.names_sublist
      distinct := arranged.names_sublist.nodup (by decide)
      defaultRules := by
        intro noTable
        rw [value_resolve]
        exact readRules_default noTable
      present := by
        intro entries found known member
        rw [RuleSet.contains, find?_resolve distinct found member,
          Option.isSome_bind]
        cases entry : entries.find? known.name with
        | none => simp
        | some value => simp [enabled?_isSome]
      configured := by
        intro entries found known member rule standing
        rw [find?_resolve distinct found member] at standing
        obtain ⟨value, entry, enabled⟩ := Option.bind_eq_some_iff.mp standing
        exact ⟨value, entry, configures_of_enabled? member enabled⟩
      baseUrl := by
        intro url
        rw [value_resolve]
        exact value_readBaseUrl }

/-! ### What a traversal relies on -/

private theorem ofBuiltins_enable (built : set.OfBuiltins) {known : Rule}
    (member : known ∈ Rule.builtins) (value : Json) :
    (enable set known value).value.OfBuiltins := by
  rw [value_enable]
  cases enabled : enabled? known value with
  | none => exact built
  | some rule =>
      have sameKind := (enabled?_frame enabled).1
      exact built.insert (sameKind.trans (notCustom_of_mem member))

theorem ofBuiltins_enableAll (built : set.OfBuiltins) (entries : Members) :
    (enableAll set entries).value.OfBuiltins := by
  induction entries generalizing set with
  | nil => exact built
  | cons pair rest induction =>
      obtain ⟨name, value⟩ := pair
      rw [enableAll]
      cases found : Rule.builtin? name with
      | none => exact induction built
      | some known =>
          have member := (builtin?_spec found).1
          exact induction (ofBuiltins_enable built member value)

/-- Whatever the value is, its rules are built-in ones in run order. -/
theorem ofBuiltins_resolve (config : Json) :
    (resolve config).value.rules.OfBuiltins := by
  rw [value_resolve]
  dsimp only
  unfold readRules
  split
  · exact RuleSet.ofBuiltins_default
  · exact RuleSet.ofBuiltins_default
  next entries _ => exact ofBuiltins_enableAll RuleSet.ofBuiltins_empty entries
  · exact RuleSet.ofBuiltins_default

/-- Whatever the value is, its base URL has a host. -/
theorem hasHostedBase_resolve (config : Json) :
    (resolve config).value.ruleContext.HasHostedBase := by
  intro base isBase
  rw [value_resolve] at isBase
  obtain ⟨text, -, made⟩ := value_readBaseUrl.mp isBase
  exact Rule.Context.hasHostedBase_of_ofBase made base rfl

/-! ### Keys that do not matter -/

variable {first second : Members}

private theorem configure_congr (known : Rule)
    (agree : AgreeOn (recognizedKeys known) first second) :
    (configure known first).value = (configure known second).value := by
  cases known with
  | validateUri schemes =>
      have schemesAgree := agree "schemes" List.mem_cons_self
      have validSchemesAgree := agree "validSchemes"
        (List.mem_cons_of_mem _ List.mem_cons_self)
      have same : readSchemes first = readSchemes second := by
        rw [readSchemes, Members.findSome?, schemesAgree, validSchemesAgree]
        rfl
      simp only [configure, Logged.value_bind, same]
  | referrerPolicy policy =>
      have same : readPolicy first = readPolicy second := by
        rw [readPolicy, agree "policy" List.mem_cons_self]
        rfl
      simp only [configure, Logged.value_bind, same]
  | _ => rfl

private theorem enabledIn?_congr (agree : AgreeOnRules first second)
    (name : String) : enabledIn? first name = enabledIn? second name := by
  cases found : Rule.builtin? name with
  | none => rw [enabledIn?, enabledIn?, found, Option.bind_none,
      Option.bind_none]
  | some known =>
      obtain ⟨member, rfl⟩ := builtin?_spec found
      rw [enabledIn?, enabledIn?, found, Option.bind_some, Option.bind_some]
      generalize firstFound : first.find? known.name = firstValue
      generalize secondFound : second.find? known.name = secondValue
      have sameUpTo := agree known member
      rw [firstFound, secondFound] at sameUpTo
      cases sameUpTo with
      | same => rfl
      | objects agreeOn =>
          exact congrArg some (configure_congr known agreeOn)

private theorem readRules_congr {config other : Json}
    (distinct : config.DistinctKeys) (otherDistinct : other.DistinctKeys)
    (agree : SameUpTo AgreeOnRules (config.member? "rules")
      (other.member? "rules")) :
    (readRules other.members).value = (readRules config.members).value := by
  generalize found : config.member? "rules" = value at agree
  generalize otherFound : other.member? "rules" = otherValue at agree
  cases agree with
  | same =>
      have same : other.members.find? "rules" = config.members.find? "rules" :=
        otherFound.trans found.symm
      rw [readRules, same]
      rfl
  | objects agreeOn =>
      have arranged :=
        readRules_arranged found (nodup_of_member? distinct found)
      have otherArranged := readRules_arranged otherFound
        (nodup_of_member? otherDistinct otherFound)
      have sameTable := funext (enabledIn?_congr agreeOn)
      have sameRules := otherArranged.rules.trans
        (sameTable ▸ arranged.rules.symm)
      exact congrArg RuleSet.mk sameRules

private theorem resolve_congr {config other : Json}
    (distinct : config.DistinctKeys) (otherDistinct : other.DistinctKeys)
    (agree : Agree config other) :
    (resolve other).value = (resolve config).value := by
  have plain := agree.plain
  simp only [AgreeOn, List.forall_mem_cons] at plain
  obtain ⟨whole, tree, dom, base, -⟩ := plain
  have sameTree : readReturnTree other.members =
      readReturnTree config.members := by
    rw [readReturnTree, Members.findSome?, flagUnder, ← tree, ← dom]
    rfl
  have sameBase : readBaseUrl other.members = readBaseUrl config.members := by
    rw [readBaseUrl, ← base]
    rfl
  have sameWhole : flagUnder "wholeDocument" other.members =
      flagUnder "wholeDocument" config.members := by
    rw [flagUnder, ← whole]
    rfl
  rw [value_resolve, value_resolve, sameWhole, sameTree, sameBase,
    readRules_congr distinct otherDistinct agree.rules]

/-- The options of a JSON value are what it says key by key, so values that
agree on every key that matters have the same options. -/
theorem resolve_standsFor {config : Json} (distinct : config.DistinctKeys) :
    StandsFor config (resolve config).value ∧
      ∀ other : Json, other.DistinctKeys → Agree config other →
        (resolve other).value = (resolve config).value :=
  ⟨standsFor_resolve distinct, fun _ otherDistinct =>
    resolve_congr distinct otherDistinct⟩

/-- Options with keys out of order, keys without a meaning and an alias. -/
def looseOptions : Json :=
  .object
    [("returnDOM", .bool true),
      ("extra", .array []),
      ("rules", .object
        [("referrerPolicy", .object [("policy", .string " ORIGIN ")]),
          ("madeUp", .bool true),
          ("validateURI", .object
            [("schemes", .null),
              ("validSchemes", .array [.string "FTP:", .null])]),
          ("noopener", .null),
          ("blankTarget", .string "yes")]),
      ("returnTree", .null)]

/-- The same options without the keys that do not matter. -/
def plainOptions : Json :=
  .object
    [("rules", .object
        [("blankTarget", .string "yes"),
          ("referrerPolicy", .object
            [("note", .bool false), ("policy", .string " ORIGIN ")]),
          ("validateURI", .object
            [("schemes", .null),
              ("validSchemes", .array [.string "FTP:", .null])]),
          ("noopener", .null)]),
      ("returnDOM", .bool true),
      ("returnTree", .null)]

theorem resolve_standsFor_looseOptions :
    looseOptions.DistinctKeys ∧ plainOptions.DistinctKeys ∧
      Agree looseOptions plainOptions ∧
      StandsFor looseOptions (resolve looseOptions).value ∧
      (resolve plainOptions).value = (resolve looseOptions).value ∧
      (resolve looseOptions).value.returnTree = true ∧
      (resolve looseOptions).value.rules.rules =
        [.blankTarget, .validateUri { schemes := ["ftp"] },
          .referrerPolicy .origin] := by
  have loose : looseOptions.DistinctKeys := by simp [looseOptions]
  have plain : plainOptions.DistinctKeys := by simp [plainOptions]
  have agree : Agree looseOptions plainOptions := by
    constructor
    · simp [AgreeOn, looseOptions, plainOptions, Json.members, Members.find?]
    · refine .objects ?_
      simp only [AgreeOnRules, Rule.builtins, List.forall_mem_cons]
      refine ⟨.same _, .same _, .same _, .same _, .same _, .objects ?_,
        List.forall_mem_nil _⟩
      simp [AgreeOn, recognizedKeys, Members.find?]
  obtain ⟨standsFor, sameFor⟩ := resolve_standsFor loose
  exact ⟨loose, plain, agree, standsFor, sameFor plainOptions plain agree, rfl,
    rfl⟩

end Options

end MarkupHarden
