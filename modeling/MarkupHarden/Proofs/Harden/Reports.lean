import MarkupHarden.Proofs.Harden.Options

/-!
# What is reported about schemes

Reading options reports the entries of a list of schemes that are left out.
`Unreported` says which lists are read without such a report: those that are
kept as they are, and those of at most two texts none of which names a scheme,
for which the default list counts as long enough.
-/

namespace MarkupHarden

/-- Events that report entries of a list of schemes. -/
def Event.isAboutSchemes : Event → Bool
  | .schemeNotString _ | .schemesDropped _ _ => true
  | _ => false

theorem Event.level_of_isAboutSchemes {event : Event}
    (about : event.isAboutSchemes = true) : event.level = .warn := by
  cases event with
  | schemeNotString | schemesDropped => rfl
  | _ => contradiction

namespace Options

open Json (Members)
open Rule (SchemeList)

/-- The options of `validateURI` list these items under the key that counts. -/
inductive ListsItems (config : Json) (items : List Json) : Prop where
  | listed {entries entry : Members} :
      config.member? "rules" = some (.object entries) →
      entries.find? "validateURI" = some (.object entry) →
      ListsSchemes entry (some (.array items)) → ListsItems config items

/-- Items that are taken over, or given up for the default list, without a
report. -/
inductive Unreported : List Json → SchemeList → Prop where
  | kept {texts : List String} {list : SchemeList} :
      texts ≠ [] → List.Forall₂ Rule.Names texts list.schemes →
      list.schemes.Nodup → Unreported (texts.map .string) list
  | replaced {texts : List String} :
      (∀ text ∈ texts, ¬Rule.IsEntry text) → texts.length ≤ 2 →
      Unreported (texts.map .string) .default

/-! ### Reading one list -/

variable {items : List Json}

/-- Items that are no texts are reported one by one. -/
theorem events_stringEntries (items : List Json) :
    (stringEntries items).events =
      (items.filter fun item => item.string?.isNone).map fun item =>
        .schemeNotString item.kind := by
  induction items with
  | nil => rfl
  | cons item items induction =>
      cases item with
      | string text =>
          simp [stringEntries, Json.string?, induction]
      | _ =>
          simp [stringEntries, Json.string?, induction, Logged.report]

/-- Texts that are left out are reported together, if the list has become
shorter. -/
theorem events_schemesOf (items : List Json) :
    (schemesOf items).events = (stringEntries items).events ++
      if (schemesOf items).value.size < (items.filterMap Json.string?).length
      then [.schemesDropped (items.filterMap Json.string?).length
        (schemesOf items).value.size]
      else [] := by
  rw [value_schemesOf, ← value_stringEntries]
  unfold schemesOf
  rw [Logged.events_bind]
  congr 1
  dsimp only
  split
  next => rfl
  next => rfl

private theorem events_stringEntries_eq_nil_iff :
    (stringEntries items).events = [] ↔
      ∃ texts : List String, items = texts.map .string := by
  rw [events_stringEntries, List.map_eq_nil_iff, List.filter_eq_nil_iff]
  constructor
  · intro allTexts
    induction items with
    | nil => exact ⟨[], rfl⟩
    | cons item items induction =>
        obtain ⟨isText, others⟩ := List.forall_mem_cons.mp allTexts
        obtain ⟨texts, rfl⟩ := induction others
        cases item with
        | string text => exact ⟨text :: texts, rfl⟩
        | _ => exact absurd rfl isText
  · rintro ⟨texts, rfl⟩ item member
    obtain ⟨text, -, rfl⟩ := List.mem_map.mp member
    exact Bool.false_ne_true

private theorem filterMap_string? (texts : List String) :
    (texts.map Json.string).filterMap Json.string? = texts := by
  rw [List.filterMap_map]
  exact List.filterMap_some

/-- No report is made of a list exactly when it is kept, or given up without a
trace. -/
theorem events_schemesOf_eq_nil_iff {list : SchemeList}
    (read : (schemesOf items).value = list) :
    (schemesOf items).events = [] ↔ Unreported items list := by
  rw [events_schemesOf, List.append_eq_nil_iff,
    events_stringEntries_eq_nil_iff, ite_eq_right_iff, read]
  have noReport (texts : List String) :
      (list.size < texts.length →
        [Event.schemesDropped texts.length list.size] = []) ↔
          texts.length ≤ list.size := by
    simp
  constructor
  · rintro ⟨⟨texts, rfl⟩, silent⟩
    rw [value_schemesOf, filterMap_string?] at read
    rw [filterMap_string?, noReport] at silent
    subst read
    by_cases someValid : ∃ text ∈ texts, Rule.IsEntry text
    · obtain ⟨text, member, -⟩ := id someValid
      have named := (SchemeList.length_le_size_lenient_iff someValid).mp silent
      exact .kept (List.ne_nil_of_mem member) named
        (SchemeList.tidy_lenient texts).distinct
    · have noneValid : ∀ text ∈ texts, ¬Rule.IsEntry text := by
        simpa using someValid
      rw [SchemeList.lenient_of_noneValid noneValid] at silent ⊢
      exact .replaced noneValid silent
  · intro unreported
    cases unreported with
    | kept nonempty named distinct =>
        refine ⟨⟨_, rfl⟩, ?_⟩
        rw [filterMap_string?, noReport]
        exact Nat.le_of_eq named.length_eq
    | replaced noneValid few =>
        refine ⟨⟨_, rfl⟩, ?_⟩
        rw [filterMap_string?, noReport]
        exact few

/-! ### Reading all options -/

/-- The events about schemes, in order. -/
def aboutSchemes {α : Type} (read : Logged α) : List Event :=
  read.events.filter Event.isAboutSchemes

theorem aboutSchemes_bind {α β : Type} (first : Logged α)
    (next : α → Logged β) :
    aboutSchemes (first >>= next) =
      aboutSchemes first ++ aboutSchemes (next first.value) :=
  List.filter_append ..

theorem aboutSchemes_pure {α : Type} (value : α) :
    aboutSchemes (pure value) = [] := rfl

private theorem aboutSchemes_schemesOf (items : List Json) :
    aboutSchemes (schemesOf items) = (schemesOf items).events := by
  apply List.filter_eq_self.mpr
  rw [events_schemesOf, events_stringEntries]
  intro event member
  rcases List.mem_append.mp member with noText | dropped
  · obtain ⟨item, -, rfl⟩ := List.mem_map.mp noText
    rfl
  · split at dropped
    next =>
      rw [List.mem_singleton.mp dropped]
      rfl
    next => contradiction

private theorem aboutSchemes_flagUnder (key : String) (record : Members) :
    aboutSchemes (flagUnder key record) = [] := by
  unfold flagUnder
  split
  next value _ => cases value <;> rfl
  next => rfl

private theorem aboutSchemes_readReturnTree (record : Members) :
    aboutSchemes (readReturnTree record) = [] := by
  unfold readReturnTree
  split
  next value _ => cases value <;> rfl
  next => exact aboutSchemes_flagUnder _ _

private theorem aboutSchemes_readPolicy (entry : Members) :
    aboutSchemes (readPolicy entry) = [] := by
  unfold readPolicy
  split
  · rfl
  · rfl
  · split <;> rfl
  · rfl

private theorem aboutSchemes_readBaseUrl (record : Members) :
    aboutSchemes (readBaseUrl record) = [] := by
  unfold readBaseUrl
  split
  · rfl
  · rfl
  · split <;> rfl
  · rfl

/-- What the entry of `validateURI` gives rise to. -/
def entryReports : Option Json → List Event
  | some (.object entry) => aboutSchemes (readSchemes entry)
  | _ => []

private theorem aboutSchemes_configure {known : Rule}
    (member : known ∈ Rule.builtins) (entry : Members) :
    aboutSchemes (configure known entry) =
      if known.name = "validateURI" then aboutSchemes (readSchemes entry)
      else [] := by
  simp only [Rule.builtins, List.mem_cons, List.not_mem_nil, or_false]
    at member
  rcases member with rfl | rfl | rfl | rfl | rfl | rfl
  · rfl
  · rfl
  · rfl
  · rfl
  · rw [configure, aboutSchemes_bind, aboutSchemes_pure, List.append_nil]
    rfl
  · rw [configure, aboutSchemes_bind, aboutSchemes_pure, List.append_nil,
      aboutSchemes_readPolicy]
    rfl

private theorem aboutSchemes_enable (set : RuleSet) {known : Rule}
    (member : known ∈ Rule.builtins) (value : Json) :
    aboutSchemes (enable set known value) =
      if known.name = "validateURI" then entryReports (some value)
      else [] := by
  match value with
  | .object entry =>
      rw [enable, aboutSchemes_bind, aboutSchemes_pure, List.append_nil,
        aboutSchemes_configure member]
      rfl
  | .null | .bool false | .bool true | .number _ | .string _ | .array _ =>
      exact (ite_self _).symm

/-- The entry of `validateURI` alone gives rise to events about schemes,
whatever entries stand around it. -/
theorem aboutSchemes_enableAll (set : RuleSet) {entries : Members}
    (distinct : (entries.map Prod.fst).Nodup) :
    aboutSchemes (enableAll set entries) =
      entryReports (entries.find? "validateURI") := by
  induction entries generalizing set with
  | nil => rfl
  | cons pair rest induction =>
      obtain ⟨key, value⟩ := pair
      obtain ⟨keyAbsent, restDistinct⟩ := List.nodup_cons.mp distinct
      rw [enableAll, Members.find?]
      split
      next found =>
        have isOther : key ≠ "validateURI" := by
          rintro rfl
          contradiction
        rw [if_neg isOther]
        exact induction set restDistinct
      next known found =>
        obtain ⟨member, rfl⟩ := builtin?_spec found
        rw [aboutSchemes_bind, aboutSchemes_enable set member,
          induction _ restDistinct]
        split
        next isKey =>
          rw [Members.find?_eq_none (isKey ▸ keyAbsent)]
          exact List.append_nil _
        next => exact List.nil_append _

/-- The events about schemes are those of reading the list. -/
theorem aboutSchemes_resolve {config : Json} (distinct : config.DistinctKeys)
    (lists : ListsItems config items) :
    aboutSchemes (resolve config) = (schemesOf items).events := by
  obtain @⟨entries, entry, isTable, isEntry, listed⟩ := lists
  have distinctKeys := nodup_of_member? distinct isTable
  have list : readSchemes entry = schemesOf items := by
    rw [readSchemes, listed.eq]
  cases config with
  | object record =>
      have table : readRules record = enableAll .empty entries := by
        change Members.find? "rules" record = _ at isTable
        rw [readRules, isTable]
      simp only [resolve, aboutSchemes_bind, aboutSchemes_pure,
        aboutSchemes_readReturnTree, aboutSchemes_flagUnder,
        aboutSchemes_readBaseUrl, List.nil_append, List.append_nil]
      rw [table, aboutSchemes_enableAll _ distinctKeys, isEntry, entryReports,
        list, aboutSchemes_schemesOf]
  | _ => contradiction

/-- The resolved list of schemes is the lenient one of the texts. -/
theorem find?_validateUri {config : Json} (distinct : config.DistinctKeys)
    (lists : ListsItems config items) :
    (resolve config).value.rules.find? "validateURI" =
      some (.validateUri (schemesOf items).value) := by
  have standsFor := standsFor_resolve distinct
  obtain ⟨isTable, isEntry, listed⟩ := lists
  have known : Rule.validateUri .default ∈ Rule.builtins := by
    simp [Rule.builtins]
  have present := (standsFor.present _ isTable _ known).mpr
    ⟨_, isEntry, Json.noConfusion, Json.noConfusion⟩
  obtain ⟨rule, found⟩ := Option.isSome_iff_exists.mp present
  obtain ⟨value, sameEntry, configures⟩ :=
    standsFor.configured _ isTable _ known rule found
  cases isEntry.symm.trans sameEntry
  refine found.trans (congrArg some ?_)
  cases configures with
  | schemes meant =>
      rw [value_schemesOf, meant.listed items listed]
  | withoutOptions noOptions =>
      exact absurd List.mem_cons_self noOptions
  | byDefault noObject => exact absurd rfl (noObject _)

/-- Reading options is silent about a list of schemes exactly when the list
that it makes of it keeps every item, or when it gives up at most two texts,
none of which names a scheme. -/
theorem silent_iff_unreported {config : Json} (distinct : config.DistinctKeys)
    (lists : ListsItems config items) :
    ∃ list, (resolve config).value.rules.find? "validateURI" =
        some (.validateUri list) ∧
      ((∀ event ∈ (resolve config).events,
        event.isAboutSchemes = false) ↔ Unreported items list) := by
  refine ⟨(schemesOf items).value, find?_validateUri distinct lists, ?_⟩
  rw [← events_schemesOf_eq_nil_iff rfl,
    ← aboutSchemes_resolve distinct lists, aboutSchemes,
    List.filter_eq_nil_iff]
  simp only [Bool.not_eq_true]

/-- Options whose only scheme is none. -/
def strayScheme : Json :=
  .object
    [("rules", .object
      [("validateURI", .object [("schemes", .array [.string "%%"])])])]

/-- An entry that names no scheme goes unnoticed when no other one does. -/
theorem events_resolve_strayScheme :
    ListsItems strayScheme [.string "%%"] ∧ ¬Rule.IsEntry "%%" ∧
      (resolve strayScheme).events = [] := by
  refine ⟨.listed rfl rfl (.schemes rfl nofun), ?_, rfl⟩
  rw [← Rule.normalScheme?_eq_none_iff]
  rfl

end Options

end MarkupHarden
