import Mathlib.Data.List.Induction
import Mathlib.Data.List.Nodup
import MarkupHarden.Rule.SchemeList

/-!
# What lists of schemes hold

`Names` says which scheme an entry stands for, without reading it.  A strict
list is accepted when every entry names a scheme, and then the lenient list is
the same; both hold the schemes that entries name, in the order in which they
are first named.
-/

namespace MarkupHarden.Rule

/-! ### Entries -/

/-- A name by the grammar of schemes: a letter, and then letters, digits, `+`,
`-` and `.`. -/
inductive IsScheme : List Char → Prop where
  | name {first : Char} {rest : List Char} :
      first.isAlpha = true →
      (∀ c ∈ rest, c.isAlphanum = true ∨ c = '+' ∨ c = '-' ∨ c = '.') →
      IsScheme (first :: rest)

/-- An entry names a scheme: it is a name, perhaps with one colon behind it,
between blanks, and the scheme is the name in lower case. -/
inductive Names (raw : String) : String → Prop where
  | written {before name colon after : List Char} :
      raw.toList = before ++ (name ++ colon) ++ after →
      (∀ c ∈ before, Text.isBlank c = true) →
      (∀ c ∈ after, Text.isBlank c = true) →
      colon = [] ∨ colon = [':'] → IsScheme name →
      Names raw (Text.lower (String.ofList name))

/-- An entry that names some scheme. -/
def IsEntry (raw : String) : Prop :=
  ∃ scheme, Names raw scheme

private theorem code_of_isAlphanum {c : Char} (inside : c.isAlphanum = true) :
    (48 ≤ c.toNat ∧ c.toNat ≤ 57) ∨ (65 ≤ c.toNat ∧ c.toNat ≤ 90) ∨
      (97 ≤ c.toNat ∧ c.toNat ≤ 122) := by
  rcases Bool.or_eq_true_iff.mp inside with letter | digit
  · exact Or.inr ((Text.isAlpha_iff c).mp letter)
  · exact Or.inl (Char.isDigit_iff_toNat.mp digit)

/-- No character of a scheme is trimmed off. -/
theorem IsScheme.solid {name : List Char} (scheme : IsScheme name) :
    ∀ c ∈ name, Text.isBlank c = false ∧ c ≠ ':' := by
  have ofAlphanum {c : Char} (inside : c.isAlphanum = true) :
      Text.isBlank c = false ∧ c ≠ ':' := by
    have code := code_of_isAlphanum inside
    constructor
    · simp only [Text.isBlank, Bool.or_eq_false_iff, Bool.and_eq_false_iff,
        decide_eq_false_iff_not]
      omega
    · rintro rfl
      contradiction
  obtain ⟨letter, allowed⟩ := scheme
  intro c member
  rcases List.mem_cons.mp member with rfl | member
  · exact ofAlphanum (Bool.or_eq_true_iff.mpr (Or.inl letter))
  · rcases allowed c member with inside | rfl | rfl | rfl
    · exact ofAlphanum inside
    · decide
    · decide
    · decide

theorem IsScheme.lower {name : List Char} (scheme : IsScheme name) :
    IsScheme (name.map Char.toLower) := by
  obtain ⟨letter, allowed⟩ := scheme
  refine .name ((Text.isAlpha_toLower _).trans letter) ?_
  intro c member
  obtain ⟨old, oldMember, rfl⟩ := List.mem_map.mp member
  by_cases upper : old.isUpper = true
  · -- Only letters change, and they stay letters.
    have alpha : old.toLower.isAlpha = true :=
      (Text.isAlpha_toLower old).trans (Bool.or_eq_true_iff.mpr (Or.inl upper))
    exact Or.inl (Bool.or_eq_true_iff.mpr (Or.inl alpha))
  · rw [Text.toLower_of_not_isUpper upper]
    exact allowed old oldMember

theorem isScheme_iff {chars : List Char} :
    isScheme chars = true ↔ IsScheme chars := by
  constructor
  · intro accepted
    rw [isScheme, Bool.and_eq_true] at accepted
    obtain ⟨begins, allowed⟩ := accepted
    cases chars with
    | nil => contradiction
    | cons first rest =>
        refine .name begins ?_
        intro c member
        simpa [or_assoc] using List.all_eq_true.mp allowed c
          (List.mem_cons_of_mem first member)
  · rintro ⟨letter, allowed⟩
    rw [isScheme, Bool.and_eq_true]
    refine ⟨letter, List.all_eq_true.mpr ?_⟩
    intro c member
    rcases List.mem_cons.mp member with rfl | member
    · simp [Char.isAlphanum, letter]
    · simpa [or_assoc] using allowed c member

private theorem exists_dropColon (chars : List Char) :
    ∃ colon, chars = dropColon chars ++ colon ∧
      (colon = [] ∨ colon = [':']) := by
  unfold dropColon
  split
  next ends =>
    refine ⟨[':'], ?_, Or.inr rfl⟩
    obtain ⟨front, rfl⟩ := List.getLast?_eq_some_iff.mp ends
    rw [List.dropLast_concat]
  next => exact ⟨[], (List.append_nil _).symm, Or.inl rfl⟩

private theorem dropColon_of_scheme {name colon : List Char}
    (scheme : IsScheme name) (isColon : colon = [] ∨ colon = [':']) :
    dropColon (name ++ colon) = name := by
  rcases isColon with rfl | rfl
  · rw [List.append_nil, dropColon, if_neg]
    intro ends
    have colonInside := (scheme.solid ':' (List.mem_of_getLast? ends)).2
    exact colonInside rfl
  · rw [dropColon, List.getLast?_concat, if_pos rfl, List.dropLast_concat]

private theorem trimBoth_of_scheme {before name colon after : List Char}
    (blankBefore : ∀ c ∈ before, Text.isBlank c = true)
    (blankAfter : ∀ c ∈ after, Text.isBlank c = true)
    (scheme : IsScheme name) (isColon : colon = [] ∨ colon = [':']) :
    Text.trimBoth Text.isBlank (before ++ (name ++ colon) ++ after) =
      name ++ colon := by
  have solid : ∀ c ∈ name ++ colon, Text.isBlank c = false := by
    intro c member
    rcases List.mem_append.mp member with inside | inside
    · exact (scheme.solid c inside).1
    · rcases isColon with rfl | rfl
      · contradiction
      · rw [List.mem_singleton.mp inside]
        rfl
  apply Text.trimBoth_append blankBefore blankAfter
  · obtain ⟨-, -⟩ := scheme
    exact List.cons_ne_nil _ _
  · exact fun c first => solid c (List.mem_of_head? first)
  · exact fun c last => solid c (List.mem_of_getLast? last)

/-- An entry is read as the scheme that it names. -/
theorem normalScheme?_eq_some_iff {raw scheme : String} :
    normalScheme? raw = some scheme ↔ Names raw scheme := by
  unfold normalScheme?
  constructor
  · intro read
    obtain ⟨before, after, whole, blankBefore, blankAfter⟩ :=
      Text.exists_trimBoth Text.isBlank raw.toList
    obtain ⟨colon, trimmed, isColon⟩ :=
      exists_dropColon (Text.trimBoth Text.isBlank raw.toList)
    rw [trimmed] at whole
    dsimp only at read
    split at read
    next name =>
      rw [← Option.some.inj read]
      exact .written whole blankBefore blankAfter isColon
        (isScheme_iff.mp name)
    next => contradiction
  · rintro ⟨whole, blankBefore, blankAfter, isColon, name⟩
    rw [whole, trimBoth_of_scheme blankBefore blankAfter name isColon]
    dsimp only
    rw [dropColon_of_scheme name isColon, if_pos (isScheme_iff.mpr name)]

theorem isEntry_iff {raw : String} :
    (normalScheme? raw).isSome = true ↔ IsEntry raw := by
  rw [Option.isSome_iff_exists]
  exact exists_congr fun _ => normalScheme?_eq_some_iff

instance (raw : String) : Decidable (IsEntry raw) :=
  decidable_of_iff _ isEntry_iff

theorem normalScheme?_eq_none_iff {raw : String} :
    normalScheme? raw = none ↔ ¬IsEntry raw := by
  rw [← isEntry_iff, Option.isSome_iff_ne_none, not_not]

/-- What is named is a scheme in lower case, and names itself. -/
theorem Names.self {raw scheme : String} (names : Names raw scheme) :
    IsScheme scheme.toList ∧ Text.lower scheme = scheme := by
  obtain ⟨-, -, -, -, name⟩ := names
  rw [Text.lower_lower, Text.toList_lower, String.toList_ofList]
  exact ⟨name.lower, rfl⟩

theorem names_self {scheme : String} (isScheme : IsScheme scheme.toList)
    (lower : Text.lower scheme = scheme) : Names scheme scheme := by
  have written : scheme.toList = [] ++ (scheme.toList ++ []) ++ [] := by simp
  have names := Names.written written (List.forall_mem_nil _)
    (List.forall_mem_nil _) (Or.inl rfl) isScheme
  rwa [String.ofList_toList, lower] at names

namespace SchemeList

/-! ### Each scheme once -/

private theorem nodup_concat {schemes : List String} {scheme : String} :
    (schemes ++ [scheme]).Nodup ↔ scheme ∉ schemes ∧ schemes.Nodup := by
  rw [List.nodup_middle, List.append_nil, List.nodup_cons]

private theorem distinct_concat (schemes : List String) (scheme : String) :
    distinct (schemes ++ [scheme]) =
      if (distinct schemes).contains scheme then distinct schemes
      else distinct schemes ++ [scheme] := by
  rw [distinct, List.foldl_append]
  rfl

theorem mem_distinct_iff {schemes : List String} {scheme : String} :
    scheme ∈ distinct schemes ↔ scheme ∈ schemes := by
  induction schemes using List.reverseRecOn with
  | nil => rfl
  | append_singleton schemes last induction =>
      rw [distinct_concat, List.mem_append, List.mem_singleton, ← induction]
      split
      next known =>
        rw [List.contains_iff_mem] at known
        constructor
        · exact Or.inl
        · rintro (before | rfl)
          · exact before
          · exact known
      next => rw [List.mem_append, List.mem_singleton]

theorem nodup_distinct (schemes : List String) : (distinct schemes).Nodup := by
  induction schemes using List.reverseRecOn with
  | nil => exact List.nodup_nil
  | append_singleton schemes last induction =>
      rw [distinct_concat]
      split
      next => exact induction
      next unknown =>
        rw [List.contains_iff_mem] at unknown
        exact nodup_concat.mpr ⟨unknown, induction⟩

theorem distinct_of_nodup {schemes : List String} (nodup : schemes.Nodup) :
    distinct schemes = schemes := by
  induction schemes using List.reverseRecOn with
  | nil => rfl
  | append_singleton schemes last induction =>
      obtain ⟨unknown, before⟩ := nodup_concat.mp nodup
      rw [distinct_concat, induction before, if_neg]
      rwa [List.contains_iff_mem]

theorem distinct_sublist (schemes : List String) :
    (distinct schemes).Sublist schemes := by
  induction schemes using List.reverseRecOn with
  | nil => exact List.Sublist.refl []
  | append_singleton schemes last induction =>
      rw [distinct_concat]
      split
      next => exact induction.trans (List.sublist_append_left _ _)
      next => exact induction.append_right [last]

/-- A scheme that is kept before another one is also given before it. -/
theorem pairwise_distinct (schemes : List String) :
    (distinct schemes).Pairwise fun first second =>
      ∃ before after, schemes = before ++ first :: after ∧
        second ∉ before := by
  induction schemes using List.reverseRecOn with
  | nil => exact List.Pairwise.nil
  | append_singleton schemes last induction =>
      have earlier : (distinct schemes).Pairwise fun first second =>
          ∃ before after, schemes ++ [last] = before ++ first :: after ∧
            second ∉ before := by
        apply induction.imp
        rintro first second ⟨before, after, rfl, notBefore⟩
        exact ⟨before, after ++ [last], by simp, notBefore⟩
      rw [distinct_concat]
      split
      next => exact earlier
      next unknown =>
        rw [List.contains_iff_mem, mem_distinct_iff] at unknown
        refine List.pairwise_append.mpr
          ⟨earlier, List.pairwise_singleton _ _, ?_⟩
        intro first member second isLast
        rw [List.mem_singleton.mp isLast]
        obtain ⟨before, after, rfl⟩ :=
          List.append_of_mem (mem_distinct_iff.mp member)
        refine ⟨before, after ++ [last], by simp, ?_⟩
        exact fun inside => unknown (List.mem_append_left _ inside)

/-! ### Reading lists -/

/-- Some entry names the first scheme before any entry names the second. -/
def NamedBefore (entries : List String) (first second : String) : Prop :=
  ∃ before raw after, entries = before ++ raw :: after ∧ Names raw first ∧
    ∀ other ∈ before, ¬Names other second

/-- A list holds the schemes that entries name, in the order in which they are
first named, and allows nothing else. -/
structure Collects (list : SchemeList) (entries : List String) : Prop where
  mem : ∀ scheme, scheme ∈ list.schemes ↔ ∃ raw ∈ entries, Names raw scheme
  ordered : list.schemes.Pairwise (NamedBefore entries)
  allows : ∀ scheme, list.allows scheme = true ↔
    ∃ raw ∈ entries, Names raw (Text.lower scheme)

/-- A list that would be accepted as it stands. -/
structure Tidy (list : SchemeList) : Prop where
  nonempty : list.schemes ≠ []
  isScheme : ∀ scheme ∈ list.schemes, IsScheme scheme.toList
  lower : ∀ scheme ∈ list.schemes, Text.lower scheme = scheme
  distinct : list.schemes.Nodup
  again : strict list.schemes = .ok list

/-- How the strict and the lenient list of the same entries agree. -/
structure Agreement (entries : List String) : Prop where
  accepted : (∃ list, strict entries = .ok list) ↔
    entries ≠ [] ∧ ∀ raw ∈ entries, IsEntry raw
  same : ∀ list, strict entries = .ok list → list = lenient entries
  usable : (∃ raw ∈ entries, IsEntry raw) →
    strict (entries.filter (IsEntry ·)) = .ok (lenient entries)
  unusable : (∀ raw ∈ entries, ¬IsEntry raw) → lenient entries = default
  tidy : ∀ list, strict entries = .ok list ∨ lenient entries = list →
    list.Tidy
  collected : ∀ list, strict entries = .ok list ∨ lenient entries = list →
    (∃ raw ∈ entries, IsEntry raw) → list.Collects entries
  allowedByDefault : ∀ scheme, default.allows scheme = true ↔
    Text.lower scheme = "http" ∨ Text.lower scheme = "https"

variable {entries : List String}

theorem mem_named_iff {scheme : String} :
    scheme ∈ entries.filterMap normalScheme? ↔
      ∃ raw ∈ entries, Names raw scheme := by
  rw [List.mem_filterMap]
  exact exists_congr fun _ => and_congr_right' normalScheme?_eq_some_iff

theorem lenient_of_noneValid (noneValid : ∀ raw ∈ entries, ¬IsEntry raw) :
    lenient entries = default := by
  have nothing : entries.filterMap normalScheme? = [] :=
    List.filterMap_eq_nil_iff.mpr fun raw member =>
      normalScheme?_eq_none_iff.mpr (noneValid raw member)
  rw [lenient, nothing]
  rfl

theorem schemes_lenient (someValid : ∃ raw ∈ entries, IsEntry raw) :
    (lenient entries).schemes = distinct (entries.filterMap normalScheme?) := by
  obtain ⟨raw, member, scheme, names⟩ := someValid
  have inside : scheme ∈ distinct (entries.filterMap normalScheme?) :=
    mem_distinct_iff.mpr (mem_named_iff.mpr ⟨raw, member, names⟩)
  unfold lenient
  split
  next nothing =>
    rw [nothing] at inside
    contradiction
  next => rfl

private theorem forall₂_named {names : String → Option String}
    (all : entries.length ≤ (entries.filterMap names).length) :
    List.Forall₂ (fun raw scheme => names raw = some scheme) entries
      (entries.filterMap names) := by
  induction entries with
  | nil => exact .nil
  | cons raw entries induction =>
      have most := List.length_filterMap_le names entries
      cases read : names raw with
      | none =>
          rw [List.filterMap_cons_none read, List.length_cons] at all
          omega
      | some scheme =>
          rw [List.filterMap_cons_some read] at all ⊢
          exact .cons read (induction (Nat.le_of_succ_le_succ all))

/-- A lenient list is as long as its entries when each of them has its own
scheme on it. -/
theorem length_le_size_lenient_iff (someValid : ∃ raw ∈ entries, IsEntry raw) :
    entries.length ≤ (lenient entries).size ↔
      List.Forall₂ Names entries (lenient entries).schemes := by
  constructor
  · intro enough
    rw [size, schemes_lenient someValid] at enough
    have kept := distinct_sublist (entries.filterMap normalScheme?)
    have most := List.length_filterMap_le normalScheme? entries
    have same := kept.eq_of_length_le (Nat.le_trans most enough)
    rw [same] at enough
    rw [schemes_lenient someValid, same]
    exact (forall₂_named enough).imp fun _ _ => normalScheme?_eq_some_iff.mp
  · intro named
    exact Nat.le_of_eq named.length_eq

private theorem normalized_of_valid
    (valid : ∀ raw ∈ entries, IsEntry raw) :
    normalized entries = .ok (entries.filterMap normalScheme?) := by
  induction entries with
  | nil => rfl
  | cons raw entries induction =>
      obtain ⟨⟨scheme, names⟩, others⟩ := List.forall_mem_cons.mp valid
      have read := normalScheme?_eq_some_iff.mpr names
      rw [normalized, read, List.filterMap_cons_some read]
      dsimp only
      rw [induction others]
      rfl

private theorem valid_of_normalized {schemes : List String}
    (accepted : normalized entries = .ok schemes) :
    ∀ raw ∈ entries, IsEntry raw := by
  induction entries generalizing schemes with
  | nil => exact List.forall_mem_nil _
  | cons raw entries induction =>
      rw [normalized] at accepted
      split at accepted
      next => contradiction
      next scheme read =>
        cases rest : normalized entries with
        | error fault =>
            rw [rest] at accepted
            contradiction
        | ok others =>
            have here : IsEntry raw :=
              ⟨scheme, normalScheme?_eq_some_iff.mp read⟩
            exact List.forall_mem_cons.mpr ⟨here, induction rest⟩

/-- A strict list is the lenient one, for entries that all name a scheme. -/
theorem strict_eq_ok_iff {list : SchemeList} :
    strict entries = .ok list ↔
      (entries ≠ [] ∧ ∀ raw ∈ entries, IsEntry raw) ∧
        lenient entries = list := by
  have strict_of_valid (notEmpty : entries ≠ [])
      (valid : ∀ raw ∈ entries, IsEntry raw) :
      strict entries = .ok (lenient entries) := by
    obtain ⟨raw, member⟩ := List.exists_mem_of_ne_nil entries notEmpty
    have someValid : ∃ raw ∈ entries, IsEntry raw :=
      ⟨raw, member, valid raw member⟩
    obtain ⟨scheme, names⟩ := valid raw member
    have inside := mem_named_iff.mpr ⟨raw, member, names⟩
    rw [strict, normalized_of_valid valid]
    split
    next => contradiction
    next nothing =>
      rw [Except.ok.inj nothing] at inside
      contradiction
    next schemes _ read =>
      rw [← Except.ok.inj read, ← schemes_lenient someValid]
  constructor
  · intro accepted
    cases read : normalized entries with
    | error fault =>
        rw [strict, read] at accepted
        contradiction
    | ok schemes =>
        have valid := valid_of_normalized read
        have notEmpty : entries ≠ [] := by
          rintro rfl
          contradiction
        rw [strict_of_valid notEmpty valid] at accepted
        exact ⟨⟨notEmpty, valid⟩, Except.ok.inj accepted⟩
  · rintro ⟨⟨notEmpty, valid⟩, rfl⟩
    exact strict_of_valid notEmpty valid

/-- Lower-case schemes, each once, are read as they stand. -/
private theorem lenient_self {list : SchemeList} (nonempty : list.schemes ≠ [])
    (named : ∀ scheme ∈ list.schemes, Names scheme scheme)
    (distinct : list.schemes.Nodup) : lenient list.schemes = list := by
  have kept : list.schemes.filterMap normalScheme? = list.schemes := by
    rw [List.filterMap_congr fun scheme member =>
      normalScheme?_eq_some_iff.mpr (named scheme member), List.filterMap_some]
  obtain ⟨scheme, member⟩ := List.exists_mem_of_ne_nil _ nonempty
  have same := schemes_lenient ⟨scheme, member, scheme, named scheme member⟩
  rw [kept, distinct_of_nodup distinct] at same
  exact congrArg SchemeList.mk same

theorem tidy_of_named {list : SchemeList} (nonempty : list.schemes ≠ [])
    (named : ∀ scheme ∈ list.schemes, ∃ raw, Names raw scheme)
    (distinct : list.schemes.Nodup) : list.Tidy := by
  have namesSelf : ∀ scheme ∈ list.schemes, Names scheme scheme := by
    intro scheme member
    obtain ⟨raw, names⟩ := named scheme member
    obtain ⟨isScheme, lower⟩ := names.self
    exact names_self isScheme lower
  exact
    { nonempty, distinct
      isScheme := fun scheme member => (namesSelf scheme member).self.1
      lower := fun scheme member => (namesSelf scheme member).self.2
      again := strict_eq_ok_iff.mpr
        ⟨⟨nonempty, fun scheme member => ⟨scheme, namesSelf scheme member⟩⟩,
          lenient_self nonempty namesSelf distinct⟩ }

theorem tidy_default : default.Tidy := by
  apply tidy_of_named (List.cons_ne_nil _ _)
  · have known : ∀ scheme ∈ default.schemes,
        isScheme scheme.toList = true ∧ Text.lower scheme = scheme := by decide
    intro scheme member
    obtain ⟨isScheme, lower⟩ := known scheme member
    exact ⟨scheme, names_self (isScheme_iff.mp isScheme) lower⟩
  · decide

theorem tidy_lenient (entries : List String) : (lenient entries).Tidy := by
  by_cases someValid : ∃ raw ∈ entries, IsEntry raw
  · have schemes := schemes_lenient someValid
    apply tidy_of_named
    · obtain ⟨raw, member, scheme, names⟩ := someValid
      rw [schemes]
      exact List.ne_nil_of_mem
        (mem_distinct_iff.mpr (mem_named_iff.mpr ⟨raw, member, names⟩))
    · intro scheme member
      rw [schemes, mem_distinct_iff, mem_named_iff] at member
      obtain ⟨raw, -, names⟩ := member
      exact ⟨raw, names⟩
    · rw [schemes]
      exact nodup_distinct _
  · rw [lenient_of_noneValid (by simpa using someValid)]
    exact tidy_default

theorem allows_iff {list : SchemeList} (tidy : list.Tidy) {scheme : String} :
    list.allows scheme = true ↔ Text.lower scheme ∈ list.schemes := by
  rw [allows, List.any_eq_true]
  constructor
  · rintro ⟨allowed, member, same⟩
    rw [Text.sameIgnoringCase, beq_iff_eq, tidy.lower allowed member] at same
    exact same ▸ member
  · intro member
    refine ⟨_, member, ?_⟩
    rw [Text.sameIgnoringCase, Text.lower_lower]
    exact beq_self_eq_true _

/-- What is read before is named before. -/
private theorem namedBefore_of_split {before after : List String}
    {first second : String}
    (given : entries.filterMap normalScheme? = before ++ first :: after)
    (notBefore : second ∉ before) : NamedBefore entries first second := by
  obtain ⟨front, back, rfl, readFront, readBack⟩ :=
    List.filterMap_eq_append_iff.mp given
  obtain ⟨skipped, raw, rest, rfl, unread, read, -⟩ :=
    List.filterMap_eq_cons_iff.mp readBack
  refine ⟨front ++ skipped, raw, rest, by simp,
    normalScheme?_eq_some_iff.mp read, ?_⟩
  intro other member names
  rcases List.mem_append.mp member with inFront | inSkipped
  · apply notBefore
    rw [← readFront, mem_named_iff]
    exact ⟨other, inFront, names⟩
  · rw [← normalScheme?_eq_some_iff, unread other inSkipped] at names
    contradiction

theorem collects_lenient (someValid : ∃ raw ∈ entries, IsEntry raw) :
    (lenient entries).Collects entries := by
  have mem (scheme : String) : scheme ∈ (lenient entries).schemes ↔
      ∃ raw ∈ entries, Names raw scheme := by
    rw [schemes_lenient someValid, mem_distinct_iff, mem_named_iff]
  have ordered : (lenient entries).schemes.Pairwise (NamedBefore entries) := by
    rw [schemes_lenient someValid]
    apply (pairwise_distinct _).imp
    rintro first second ⟨before, after, given, notBefore⟩
    exact namedBefore_of_split given notBefore
  exact
    { mem, ordered
      allows := fun scheme =>
        (allows_iff (tidy_lenient entries)).trans (mem _) }

/-- Entries that name nothing do not matter to a lenient list. -/
theorem lenient_filter (entries : List String) :
    lenient (entries.filter (IsEntry ·)) = lenient entries := by
  have same : (entries.filter (IsEntry ·)).filterMap normalScheme? =
      entries.filterMap normalScheme? := by
    rw [List.filterMap_filter]
    apply List.filterMap_congr
    intro raw _
    by_cases isEntry : IsEntry raw
    · simp [isEntry]
    · simp [isEntry, normalScheme?_eq_none_iff.mpr isEntry]
  rw [lenient, same]
  rfl

/-- A strict list is accepted when every entry names a scheme, and then it is
the lenient one.  That one holds what the entries name, or else the default
schemes. -/
theorem strict_lenient_agreement (entries : List String) :
    Agreement entries := by
  have same (list : SchemeList)
      (returned : strict entries = .ok list ∨ lenient entries = list) :
      lenient entries = list := by
    rcases returned with accepted | rfl
    · exact (strict_eq_ok_iff.mp accepted).2
    · rfl
  constructor
  case accepted =>
    constructor
    · rintro ⟨list, accepted⟩
      exact (strict_eq_ok_iff.mp accepted).1
    · intro valid
      exact ⟨_, strict_eq_ok_iff.mpr ⟨valid, rfl⟩⟩
  case same => exact fun list accepted => (same list (Or.inl accepted)).symm
  case usable =>
    rintro ⟨raw, member, isEntry⟩
    have kept : raw ∈ entries.filter (IsEntry ·) :=
      List.mem_filter.mpr ⟨member, decide_eq_true isEntry⟩
    have allValid : ∀ raw ∈ entries.filter (IsEntry ·), IsEntry raw :=
      fun _ kept => of_decide_eq_true (List.mem_filter.mp kept).2
    exact strict_eq_ok_iff.mpr
      ⟨⟨List.ne_nil_of_mem kept, allValid⟩, lenient_filter entries⟩
  case unusable => exact lenient_of_noneValid
  case tidy =>
    exact fun list returned => same list returned ▸ tidy_lenient entries
  case collected =>
    exact fun list returned someValid =>
      same list returned ▸ collects_lenient someValid
  case allowedByDefault =>
    intro scheme
    rw [allows_iff tidy_default]
    exact List.mem_pair

end SchemeList

end MarkupHarden.Rule
