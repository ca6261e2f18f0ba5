import MarkupHarden.Proofs.Html.CharacterReference
import MarkupHarden.Proofs.Text.Digits

/-!
# The grammar of character references

`Denotes` says what may stand between an ampersand and its semicolon, and
`Decodes` what a text is with its references replaced from left to right.  Both
depend on the signs that a number may have in front of its digits: the reader
takes a plus sign there, so it agrees with the grammar without signs on texts
in which no plus sign stands at the start of a number.
-/

namespace MarkupHarden.Html.CharacterReference

/-- The character for the number of a numeric reference. -/
inductive StandsFor (code : Nat) : Char → Prop where
  | codePoint {c : Char} : code ≠ 0 → c.toNat = code → StandsFor code c
  | replaced :
      code = 0 ∨ (0xD800 ≤ code ∧ code ≤ 0xDFFF) ∨ 0x10FFFF < code →
      StandsFor code '\ufffd'

/-- The text between ampersand and semicolon of a reference to a character. -/
inductive Denotes (signs : List (List Char)) : List Char → Char → Prop where
  | name {name : String} {c : Char} :
      (name, c) ∈ named → Denotes signs name.toList c
  | decimal {sign digits : List Char} {code : Nat} {c : Char} :
      sign ∈ signs → Text.Writes 10 digits code → code < 2 ^ 32 →
      StandsFor code c → Denotes signs ('#' :: (sign ++ digits)) c
  | hexadecimal {mark : Char} {sign digits : List Char} {code : Nat}
      {c : Char} :
      mark = 'x' ∨ mark = 'X' →
      sign ∈ signs → Text.Writes 16 digits code → code < 2 ^ 32 →
      StandsFor code c → Denotes signs ('#' :: mark :: (sign ++ digits)) c

/-- The text behind an ampersand that starts a reference: the reference ends at
the next semicolon. -/
def IsReference (signs : List (List Char)) (chars : List Char) (c : Char)
    (rest : List Char) : Prop :=
  ∃ body, chars = body ++ ';' :: rest ∧ ';' ∉ body ∧ Denotes signs body c

/-- Replacing references from left to right and copying everything else. -/
inductive Decodes (signs : List (List Char)) :
    List Char → List Char → Prop where
  | done : Decodes signs [] []
  | reference {chars rest decoded : List Char} {c : Char} :
      IsReference signs chars c rest → Decodes signs rest decoded →
      Decodes signs ('&' :: chars) (c :: decoded)
  | ampersand {chars decoded : List Char} :
      (∀ c rest, ¬IsReference signs chars c rest) →
      Decodes signs chars decoded →
      Decodes signs ('&' :: chars) ('&' :: decoded)
  | copied {c : Char} {chars decoded : List Char} :
      c ≠ '&' → Decodes signs chars decoded →
      Decodes signs (c :: chars) (c :: decoded)

/-- The signs that the reader takes in front of the digits of a number. -/
def readSigns : List (List Char) := [[], ['+']]

variable {signs : List (List Char)} {chars rest decoded body : List Char}
  {c : Char} {base code number : Nat}

/-! ### Numbers -/

theorem ofCodePoint_eq_iff : ofCodePoint code = c ↔ StandsFor code c := by
  unfold ofCodePoint
  constructor
  · rintro rfl
    split
    next valid =>
      refine .codePoint valid.1 ?_
      rw [Char.ofNat, dif_pos valid.2]
      rfl
    next invalid =>
      apply StandsFor.replaced
      simp only [Nat.isValidChar] at invalid
      omega
  · rintro (⟨nonzero, rfl⟩ | outside)
    · rw [if_pos ⟨nonzero, c.valid⟩, Char.ofNat_toNat]
    · rw [if_neg]
      simp only [Nat.isValidChar]
      omega

private theorem not_isDigit_plus {value : Nat} : ¬Text.IsDigit '+' value := by
  have code : '+'.toNat = 43 := rfl
  rw [Text.isDigit_iff, code]
  omega

private theorem head?_ne_plus (writes : Text.Writes base chars number) :
    chars.head? ≠ some '+' := by
  obtain ⟨-, values, digits, -, -⟩ := writes
  intro first
  cases digits with
  | nil => contradiction
  | cons isDigit _ =>
      rw [Option.some.inj first] at isDigit
      exact not_isDigit_plus isDigit

theorem number?_eq_some_iff :
    number? base chars = some number ↔
      ∃ sign ∈ readSigns, ∃ digits, chars = sign ++ digits ∧
        Text.Writes base digits number ∧ number < 2 ^ 32 := by
  unfold number?
  simp only [Option.filter_eq_some_iff, Text.numberOf?_eq_some_iff,
    decide_eq_true_eq]
  constructor
  · intro read
    split at read
    next digits => exact ⟨['+'], by decide, digits, rfl, read⟩
    next => exact ⟨[], by decide, _, rfl, read⟩
  · rintro ⟨sign, isSign, digits, rfl, writes, small⟩
    simp only [readSigns, List.mem_cons, List.not_mem_nil, or_false] at isSign
    refine ⟨?_, small⟩
    rcases isSign with rfl | rfl
    · split
      next rest same =>
        have unsigned := head?_ne_plus writes
        rw [← List.nil_append digits, same] at unsigned
        contradiction
      next => exact writes
    · exact writes

theorem map_ofCodePoint_eq_some_iff :
    (number? base chars).map ofCodePoint = some c ↔
      ∃ sign ∈ readSigns, ∃ digits code, chars = sign ++ digits ∧
        Text.Writes base digits code ∧ code < 2 ^ 32 ∧ StandsFor code c := by
  rw [Option.map_eq_some_iff]
  simp only [number?_eq_some_iff, ofCodePoint_eq_iff]
  constructor
  · rintro ⟨code, ⟨sign, isSign, digits, whole, writes, small⟩, stands⟩
    exact ⟨sign, isSign, digits, code, whole, writes, small, stands⟩
  · rintro ⟨sign, isSign, digits, code, whole, writes, small, stands⟩
    exact ⟨code, ⟨sign, isSign, digits, whole, writes, small⟩, stands⟩

/-! ### Names -/

private theorem resolve?_named :
    ∀ pair ∈ named, resolve? pair.1.toList = some pair.2 := by
  decide

private theorem mem_named_of_lookup {name : String}
    (found : named.lookup name = some c) : (name, c) ∈ named := by
  obtain ⟨before, after, split, -⟩ := List.lookup_eq_some_iff.mp found
  rw [split]
  exact List.mem_append_right _ List.mem_cons_self

/-- No decimal number begins with the mark of a hexadecimal one. -/
private theorem number?_marked {mark : Char} (isMark : mark = 'x' ∨ mark = 'X')
    (digits : List Char) : number? 10 (mark :: digits) = none := by
  have noDigit : Text.digitValue? 10 mark = none := by
    rcases isMark with rfl | rfl <;> rfl
  have noSign : mark ≠ '+' := by
    rcases isMark with rfl | rfl <;> decide
  unfold number?
  split
  next rest same => exact absurd (List.cons.inj same).1 noSign
  next => simp [Text.numberOf?, Text.continueNumber?, noDigit]

theorem resolve?_eq_some_iff :
    resolve? body = some c ↔ Denotes readSigns body c := by
  constructor
  · intro resolved
    unfold resolve? at resolved
    split at resolved
    next =>
      obtain ⟨sign, isSign, digits, code, rfl, writes, small, stands⟩ :=
        map_ofCodePoint_eq_some_iff.mp resolved
      exact .hexadecimal (Or.inl rfl) isSign writes small stands
    next =>
      obtain ⟨sign, isSign, digits, code, rfl, writes, small, stands⟩ :=
        map_ofCodePoint_eq_some_iff.mp resolved
      exact .hexadecimal (Or.inr rfl) isSign writes small stands
    next =>
      obtain ⟨sign, isSign, digits, code, rfl, writes, small, stands⟩ :=
        map_ofCodePoint_eq_some_iff.mp resolved
      exact .decimal isSign writes small stands
    next =>
      have denotes : Denotes readSigns (String.ofList body).toList c :=
        .name (mem_named_of_lookup resolved)
      rwa [String.toList_ofList] at denotes
  · intro denotes
    cases denotes with
    | name member => exact resolve?_named _ member
    | @decimal sign digits code c isSign writes small stands =>
        have read := map_ofCodePoint_eq_some_iff.mpr
          ⟨sign, isSign, digits, code, rfl, writes, small, stands⟩
        rw [resolve?]
        · exact read
        · intro rest same
          rw [same, number?_marked (Or.inl rfl)] at read
          contradiction
        · intro rest same
          rw [same, number?_marked (Or.inr rfl)] at read
          contradiction
    | @hexadecimal mark sign digits code c isMark isSign writes small stands =>
        have read := map_ofCodePoint_eq_some_iff.mpr
          ⟨sign, isSign, digits, code, rfl, writes, small, stands⟩
        rcases isMark with rfl | rfl
        · exact read
        · exact read

/-! ### Texts -/

theorem splitSemicolon?_eq_some_iff :
    splitSemicolon? chars = some (body, rest) ↔
      chars = body ++ ';' :: rest ∧ ';' ∉ body := by
  constructor
  · intro split
    induction chars generalizing body with
    | nil => contradiction
    | cons first chars induction =>
        by_cases ends : first = ';'
        · rw [ends, splitSemicolon?] at split
          cases split
          exact ⟨ends ▸ rfl, List.not_mem_nil⟩
        · rw [splitSemicolon?] at split
          · obtain ⟨⟨front, back⟩, found, same⟩ :=
              Option.map_eq_some_iff.mp split
            cases same
            obtain ⟨rfl, inside⟩ := induction found
            exact ⟨rfl, List.not_mem_cons_of_ne_of_not_mem (Ne.symm ends)
              inside⟩
          · exact ends
  · rintro ⟨rfl, inside⟩
    exact splitSemicolon?_append inside rest

theorem read?_eq_some_iff :
    read? chars = some (c, rest) ↔ IsReference readSigns chars c rest := by
  rw [read?, Option.bind_eq_some_iff]
  constructor
  · rintro ⟨⟨body, tail⟩, split, resolved⟩
    obtain ⟨_, denotes, same⟩ := Option.map_eq_some_iff.mp resolved
    cases same
    obtain ⟨whole, inside⟩ := splitSemicolon?_eq_some_iff.mp split
    exact ⟨body, whole, inside, resolve?_eq_some_iff.mp denotes⟩
  · rintro ⟨body, whole, inside, denotes⟩
    refine ⟨(body, rest),
      splitSemicolon?_eq_some_iff.mpr ⟨whole, inside⟩, ?_⟩
    rw [resolve?_eq_some_iff.mpr denotes, Option.map_some]

theorem read?_eq_none_iff :
    read? chars = none ↔ ∀ c rest, ¬IsReference readSigns chars c rest := by
  rw [Option.eq_none_iff_forall_ne_some, Prod.forall]
  exact forall₂_congr fun c rest => not_congr read?_eq_some_iff

theorem decodes_decode (chars : List Char) :
    Decodes readSigns chars (decode chars) := by
  fun_induction decode chars with
  | case1 => exact .done
  | case2 chars c rest found _ induction =>
      exact .reference (read?_eq_some_iff.mp found) induction
  | case3 chars absent induction =>
      exact .ampersand (read?_eq_none_iff.mp absent) induction
  | case4 c chars different induction =>
      exact .copied different induction

theorem decode_ampersand (absent : read? rest = none) :
    decode ('&' :: rest) = '&' :: decode rest := by
  rw [decode]
  split
  next found =>
    rw [absent] at found
    contradiction
  next => rfl

theorem eq_decode (decodes : Decodes readSigns chars decoded) :
    decode chars = decoded := by
  induction decodes with
  | done => rw [decode]
  | reference isReference _ induction =>
      obtain ⟨body, rfl, inside, denotes⟩ := isReference
      rw [← List.cons_append,
        decode_reference inside (resolve?_eq_some_iff.mpr denotes), induction]
  | ampersand absent _ induction =>
      rw [decode_ampersand (read?_eq_none_iff.mpr absent), induction]
  | copied different _ induction => rw [decode_cons different, induction]

/-- A text is decoded by the grammar in which a number may have a plus sign. -/
theorem decodes_iff : Decodes readSigns chars decoded ↔
    decode chars = decoded := by
  constructor
  · exact eq_decode
  · rintro rfl
    exact decodes_decode chars

/-! ### Signs -/

/-- Two grammars have the same references inside a text. -/
def Agree (signs others : List (List Char)) (chars : List Char) : Prop :=
  ∀ body, body <:+: chars → ∀ c, Denotes signs body c ↔ Denotes others body c

namespace Agree

variable {others : List (List Char)} {whole : List Char}

theorem symm (agree : Agree signs others chars) : Agree others signs chars :=
  fun body inside c => (agree body inside c).symm

theorem of_suffix (agree : Agree signs others whole)
    (suffix : chars <:+ whole) : Agree signs others chars :=
  fun body inside => agree body (inside.trans suffix.isInfix)

theorem isReference_iff (agree : Agree signs others chars) :
    IsReference signs chars c rest ↔ IsReference others chars c rest := by
  refine exists_congr fun body => and_congr_right fun whole =>
    and_congr_right' (agree body ?_ c)
  rw [whole]
  exact (List.prefix_append _ _).isInfix

theorem decodes (agree : Agree signs others chars)
    (decodes : Decodes signs chars decoded) :
    Decodes others chars decoded := by
  -- What is left to decode is a suffix, inside of which the grammars agree too.
  induction decodes with
  | done => exact .done
  | @reference chars rest decoded c isReference _ induction =>
      have behind : rest <:+ chars := by
        obtain ⟨body, rfl, -, -⟩ := isReference
        exact ⟨body ++ [';'], by simp⟩
      have below := agree.of_suffix (List.suffix_cons '&' chars)
      exact .reference (below.isReference_iff.mp isReference)
        (induction (below.of_suffix behind))
  | @ampersand chars decoded absent _ induction =>
      have below := agree.of_suffix (List.suffix_cons '&' chars)
      refine .ampersand ?_ (induction below)
      intro c rest isReference
      exact absent c rest (below.isReference_iff.mpr isReference)
  | copied different _ induction =>
      have below := agree.of_suffix (List.suffix_cons _ _)
      exact .copied different (induction below)

end Agree

/-- No plus sign stands where the digits of a number would begin. -/
def Unsigned (chars : List Char) : Prop :=
  ∀ start ∈ ["#+", "#x+", "#X+"], ¬start.toList <:+: chars

theorem Denotes.mono {others : List (List Char)} (more : signs ⊆ others)
    (denotes : Denotes signs body c) : Denotes others body c := by
  cases denotes with
  | name member => exact .name member
  | decimal isSign writes small stands =>
      exact .decimal (more isSign) writes small stands
  | hexadecimal isMark isSign writes small stands =>
      exact .hexadecimal isMark (more isSign) writes small stands

theorem Denotes.unsigned (unsigned : Unsigned body)
    (denotes : Denotes readSigns body c) : Denotes [[]] body c := by
  have fresh (start : String) (isStart : start ∈ ["#+", "#x+", "#X+"])
      (rest : List Char) : body ≠ start.toList ++ rest := fun same =>
    unsigned start isStart (same ▸ (List.prefix_append _ _).isInfix)
  cases denotes with
  | name member => exact .name member
  | @decimal sign digits code c isSign writes small stands =>
      refine .decimal ?_ writes small stands
      simp only [readSigns, List.mem_cons, List.not_mem_nil, or_false]
        at isSign ⊢
      rcases isSign with rfl | rfl
      · rfl
      · exact absurd rfl (fresh "#+" (by decide) digits)
  | @hexadecimal mark sign digits code c isMark isSign writes small stands =>
      refine .hexadecimal isMark ?_ writes small stands
      simp only [readSigns, List.mem_cons, List.not_mem_nil, or_false]
        at isSign ⊢
      rcases isSign with rfl | rfl
      · rfl
      · rcases isMark with rfl | rfl
        · exact absurd rfl (fresh "#x+" (by decide) digits)
        · exact absurd rfl (fresh "#X+" (by decide) digits)

theorem agree_unsigned (unsigned : Unsigned chars) :
    Agree readSigns [[]] chars := by
  intro body inside c
  constructor
  · apply Denotes.unsigned
    intro start isStart within
    exact unsigned start isStart (within.trans inside)
  · exact Denotes.mono (by decide)

/-- Where no number has a sign, a text is decoded by the grammar in which none
may have one. -/
theorem decodes_unsigned_iff (unsigned : Unsigned chars) :
    Decodes [[]] chars decoded ↔ decode chars = decoded := by
  have agree := agree_unsigned unsigned
  rw [← decodes_iff]
  exact ⟨agree.symm.decodes, agree.decodes⟩

private theorem head?_named :
    ∀ pair ∈ named, pair.1.toList.head? ≠ some '#' := by
  decide

theorem not_denotes_plus : ¬Denotes [[]] ('#' :: '+' :: chars) c := by
  intro denotes
  generalize same : '#' :: '+' :: chars = body at denotes
  cases denotes with
  | name member =>
      have first := head?_named _ member
      rw [← same] at first
      contradiction
  | decimal isSign writes =>
      rw [List.mem_singleton.mp isSign, List.nil_append] at same
      apply head?_ne_plus writes
      rw [← (List.cons.inj same).2]
      rfl
  | hexadecimal isMark =>
      rw [← (List.cons.inj (List.cons.inj same).2).1] at isMark
      revert isMark
      decide

theorem decodes_of_not_mem (absent : '&' ∉ chars) :
    Decodes signs chars chars := by
  induction chars with
  | nil => exact .done
  | cons c chars induction =>
      rw [List.mem_cons, not_or] at absent
      exact .copied (Ne.symm absent.1) (induction absent.2)

/-- By the grammar a sign is no part of a number, but it is passed over. -/
theorem decode_plusSign :
    Decodes [[]] "&#+65;".toList "&#+65;".toList ∧
      decode "&#+65;".toList = "A".toList := by
  constructor
  · refine .ampersand ?_ ?_
    · rintro c rest ⟨body, whole, inside, denotes⟩
      have cut := splitSemicolon?_eq_some_iff.mpr ⟨whole, inside⟩
      cases cut
      exact not_denotes_plus denotes
    · exact decodes_of_not_mem (by decide)
  · have inside : ';' ∉ "#+65".toList := by decide
    have resolved : resolve? "#+65".toList = some 'A' := by decide
    have read := decode_reference inside resolved []
    rw [decode] at read
    exact read

end MarkupHarden.Html.CharacterReference
