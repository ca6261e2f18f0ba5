import Mathlib.Data.List.Infix
import Mathlib.Tactic.MkIffOfInductiveProp
import MarkupHarden.Html.Lexer
import MarkupHarden.Html.Serializer
import MarkupHarden.Proofs.Html.CharacterReference

/-!
# Reading what was written

Every piece of markup that a serializer writes is read back as the token it
stands for, whatever follows it.  Names are read up to case.
-/

namespace MarkupHarden.Html

open Dom (Element)

/-! ### Names -/

/-- A name that a tag can be written with. -/
@[mk_iff]
structure IsTagName (name : String) : Prop where
  alpha : name.toList.head?.any Char.isAlpha = true
  inside : ∀ c ∈ name.toList, endsTagName c = false

/-- A name that an attribute can be written with. -/
@[mk_iff]
structure IsAttributeName (name : String) : Prop where
  nonempty : name ≠ ""
  inside : ∀ c ∈ name.toList, endsTagName c = false
  later : ∀ c ∈ name.toList.tail, c ≠ '='

theorem toLower_ne {c stop : Char} (notLetter : stop.toNat < 97)
    (different : c ≠ stop) : c.toLower ≠ stop := by
  unfold Char.toLower
  split
  next upper =>
    intro same
    have value : (c.val + 32).toNat = stop.toNat :=
      congrArg (fun other : Char => other.val.toNat) same
    have least : 65 ≤ c.val.toNat := UInt32.le_iff_toNat_le.mp upper.1
    have most : c.val.toNat ≤ 90 := UInt32.le_iff_toNat_le.mp upper.2
    rw [UInt32.toNat_add] at value
    simp only [UInt32.reduceToNat] at value
    omega
  next => exact different

theorem endsTagName_toLower {c : Char} (inside : endsTagName c = false) :
    endsTagName c.toLower = false := by
  simp only [endsTagName, Text.isSpace, Bool.or_eq_false_iff,
    decide_eq_false_iff_not] at inside ⊢
  obtain ⟨⟨⟨⟨⟨⟨space, tab⟩, feed⟩, form⟩, line⟩, slash⟩, close⟩ := inside
  exact ⟨⟨⟨⟨⟨⟨toLower_ne (by decide) space, toLower_ne (by decide) tab⟩,
    toLower_ne (by decide) feed⟩, toLower_ne (by decide) form⟩,
    toLower_ne (by decide) line⟩, toLower_ne (by decide) slash⟩,
    toLower_ne (by decide) close⟩

theorem IsTagName.lower {name : String} (tagName : IsTagName name) :
    IsTagName (Text.lower name) := by
  constructor
  · have alpha := tagName.alpha
    rw [Text.toList_lower, List.head?_map]
    cases first : name.toList.head? with
    | none =>
        rw [first] at alpha
        contradiction
    | some c =>
        rw [first] at alpha
        exact (Text.isAlpha_toLower c).trans alpha
  · intro c member
    rw [Text.toList_lower] at member
    obtain ⟨old, oldMember, rfl⟩ := List.mem_map.mp member
    exact endsTagName_toLower (tagName.inside old oldMember)

theorem IsAttributeName.lower {name : String} (named : IsAttributeName name) :
    IsAttributeName (Text.lower name) := by
  constructor
  · intro empty
    rw [← String.toList_eq_nil_iff, Text.toList_lower, List.map_eq_nil_iff,
      String.toList_eq_nil_iff] at empty
    exact named.nonempty empty
  · intro c member
    rw [Text.toList_lower] at member
    obtain ⟨old, oldMember, rfl⟩ := List.mem_map.mp member
    exact endsTagName_toLower (named.inside old oldMember)
  · intro c member
    rw [Text.toList_lower, ← List.map_tail] at member
    obtain ⟨old, oldMember, rfl⟩ := List.mem_map.mp member
    exact toLower_ne (by decide) (named.later old oldMember)

/-- An element whose start tag is read back. -/
@[mk_iff]
structure TagSafe (element : Element) : Prop where
  name : IsTagName element.localName
  attributes : ∀ pair ∈ element.attributes, IsAttributeName pair.1
  distinct : (element.attributes.map fun pair => Text.lower pair.1).Nodup

instance (name : String) : Decidable (IsTagName name) :=
  decidable_of_iff
    (name.toList.head?.any Char.isAlpha = true ∧
      name.toList.all (!endsTagName ·) = true)
    (by simp [isTagName_iff])

instance (name : String) : Decidable (IsAttributeName name) :=
  decidable_of_iff
    (name ≠ "" ∧ name.toList.all (!endsTagName ·) = true ∧
      name.toList.tail.all (· ≠ '=') = true)
    (by simp [isAttributeName_iff])

instance (element : Element) : Decidable (TagSafe element) :=
  decidable_of_iff' _ (tagSafe_iff element)

/-- The attributes of an element under the names of its tag. -/
def tagAttributes (element : Element) : TagAttributes :=
  element.attributes.map fun pair => (Text.lower pair.1, pair.2)

/-- The token of the start tag of an element. -/
def startTagOf (element : Element) : Token :=
  .startTag (Text.lower element.localName) (tagAttributes element) false

theorem takeWhile_append_stop {stops : Char → Bool}
    {inside rest : List Char} (within : ∀ c ∈ inside, stops c = false)
    (behind : rest.head?.all stops = true) :
    (inside ++ rest).takeWhile (!stops ·) = inside ∧
      (inside ++ rest).dropWhile (!stops ·) = rest := by
  have all : ∀ c ∈ inside, (!stops c) = true := by
    intro c member
    rw [within c member]
    rfl
  rw [List.takeWhile_append_of_pos all, List.dropWhile_append_of_pos all]
  cases rest with
  | nil => simp
  | cons c rest =>
      have stop : stops c = true := behind
      simp [stop]

private theorem splitAt?_append {stop : Char} {inside : List Char}
    (absent : stop ∉ inside) (rest : List Char) :
    splitAt? stop (inside ++ stop :: rest) = some (inside, rest) := by
  induction inside with
  | nil => simp [splitAt?]
  | cons c inside induction =>
      have different : c ≠ stop := fun same =>
        absent (same ▸ List.mem_cons_self)
      have later : stop ∉ inside := fun member =>
        absent (List.mem_cons_of_mem _ member)
      rw [List.cons_append, splitAt?, if_neg different, induction later]
      rfl

/-! ### Attributes -/

private theorem not_isSpace {c : Char} (inside : endsTagName c = false) :
    Text.isSpace c = false ∧ c ≠ '/' ∧ c ≠ '>' := by
  simpa [endsTagName, and_assoc] using inside

private theorem skipSpaces_cons {c : Char} (notSpace : Text.isSpace c = false)
    (rest : List Char) : skipSpaces (c :: rest) = c :: rest := by
  simp [skipSpaces, notSpace]

private theorem skipSpaces_space_cons {c : Char}
    (notSpace : Text.isSpace c = false) (rest : List Char) :
    skipSpaces (' ' :: c :: rest) = c :: rest := by
  rw [skipSpaces, List.dropWhile_cons_of_pos (by decide)]
  exact skipSpaces_cons notSpace rest

private theorem readValue?_quoted (value : String) (rest : List Char) :
    readValue? ('"' :: CharacterReference.escapeAttribute value.toList ++
      '"' :: rest) = some (value, rest) := by
  rw [List.cons_append, readValue?]
  simp [splitAt?_append (CharacterReference.not_mem_escapeAttribute _), decoded,
    CharacterReference.decode_escapeAttribute]

private theorem readAttribute?_written {first : Char} {tail : List Char}
    (name : IsAttributeName (String.ofList (first :: tail))) (value : String)
    (rest : List Char) :
    readAttribute? first (tail ++ '=' :: '"' ::
        (CharacterReference.escapeAttribute value.toList ++ '"' :: rest)) =
      some ((Text.lower (String.ofList (first :: tail)), value), rest) := by
  have inside : ∀ c ∈ tail, endsAttributeName c = false := by
    intro c member
    have named := name.inside c (by simp [member])
    have notEquals := name.later c (by simpa using member)
    obtain ⟨notSpace, notSlash, notClose⟩ := not_isSpace named
    simp [endsAttributeName, notSpace, notSlash, notClose, notEquals]
  have stops : ('=' :: '"' :: (CharacterReference.escapeAttribute value.toList ++
      '"' :: rest)).head?.all endsAttributeName = true := by
    simp [endsAttributeName]
  obtain ⟨taken, dropped⟩ := takeWhile_append_stop inside stops
  rw [readAttribute?, taken, dropped, skipSpaces_cons (by decide)]
  change Option.map _ (readValue? (skipSpaces ('"' :: _))) = _
  have read := readValue?_quoted value rest
  rw [List.cons_append] at read
  rw [skipSpaces_cons (by decide), read]
  rfl

private theorem toList_attributeMarkup (name value : String) :
    (attributeMarkup name value).toList =
      ' ' :: (name.toList ++ '=' :: '"' ::
        (CharacterReference.escapeAttribute value.toList ++ ['"'])) := by
  simp [attributeMarkup]

/-- The attributes of a start tag as it is written. -/
private def attributesMarkup (attributes : TagAttributes) : List Char :=
  attributes.flatMap fun pair => (attributeMarkup pair.1 pair.2).toList

private theorem readAttributes?_step {read : TagAttributes}
    {chars tail rest : List Char} {first : Char} {pair : String × String}
    (spaces : skipSpaces chars = first :: tail) (notClose : first ≠ '>')
    (notSlash : first ≠ '/')
    (found : readAttribute? first tail = some (pair, rest))
    (fresh : pair.1 ∉ read.map Prod.fst) :
    readAttributes? read chars = readAttributes? (read ++ [pair]) rest := by
  have notRead : read.any (·.1 = pair.1) = false := by
    rw [List.any_eq_false]
    intro other member same
    exact fresh (List.mem_map.mpr ⟨other, member, of_decide_eq_true same⟩)
  rw [readAttributes?]
  split
  next empty =>
    rw [spaces] at empty
    contradiction
  next close =>
    rw [spaces] at close
    exact absurd (List.cons.inj close).1 notClose
  next slash =>
    rw [spaces] at slash
    exact absurd (List.cons.inj slash).1 notSlash
  next slash =>
    rw [spaces] at slash
    exact absurd (List.cons.inj slash).1 notSlash
  next other behind _ _ _ same =>
    rw [spaces] at same
    obtain ⟨rfl, rfl⟩ := List.cons.inj same
    split
    next absent =>
      rw [found] at absent
      contradiction
    next again _ readAgain =>
      rw [found] at readAgain
      cases readAgain
      rw [if_neg (by simp [notRead])]

private theorem readAttributes?_written (attributes read : TagAttributes)
    (names : ∀ pair ∈ attributes, IsAttributeName pair.1)
    (distinct : (read.map Prod.fst ++
      attributes.map fun pair => Text.lower pair.1).Nodup)
    (rest : List Char) :
    readAttributes? read (attributesMarkup attributes ++ '>' :: rest) =
      some ((read ++ attributes.map fun pair => (Text.lower pair.1, pair.2),
        false), rest) := by
  induction attributes generalizing read with
  | nil =>
      have close : skipSpaces (attributesMarkup [] ++ '>' :: rest) =
          '>' :: rest := skipSpaces_cons (by decide) rest
      rw [readAttributes?]
      split <;> simp_all
  | cons pair attributes induction =>
      obtain ⟨name, value⟩ := pair
      have named : IsAttributeName name := names _ List.mem_cons_self
      cases chars : name.toList with
      | nil => exact absurd (String.toList_eq_nil_iff.mp chars) named.nonempty
      | cons first tail =>
          have nameEq : name = String.ofList (first :: tail) := by
            rw [← chars, String.ofList_toList]
          have inside := named.inside first (by simp [chars])
          obtain ⟨notSpace, notSlash, notClose⟩ := not_isSpace inside
          have written : attributesMarkup ((name, value) :: attributes) ++
              '>' :: rest = ' ' :: first :: (tail ++ '=' :: '"' ::
                (CharacterReference.escapeAttribute value.toList ++ '"' ::
                  (attributesMarkup attributes ++ '>' :: rest))) := by
            simp [attributesMarkup, toList_attributeMarkup, chars]
          have one := readAttribute?_written (nameEq ▸ named) value
            (attributesMarkup attributes ++ '>' :: rest)
          rw [← nameEq] at one
          have fresh : Text.lower name ∉ read.map Prod.fst := by
            intro member
            exact (List.nodup_append.mp distinct).2.2 _ member _
              List.mem_cons_self rfl
          rw [written, readAttributes?_step (skipSpaces_space_cons notSpace _)
            notClose notSlash one fresh, induction]
          · simp
          · exact fun other member => names other (List.mem_cons_of_mem _ member)
          · simpa using distinct

/-! ### Tags -/

theorem toList_endTagMarkup (element : Element) :
    (endTagMarkup element).toList =
      '<' :: '/' :: (element.localName.toList ++ ['>']) := by
  simp [endTagMarkup]

theorem toList_startTagMarkup (element : Element) :
    (startTagMarkup element).toList =
      '<' :: (element.localName.toList ++
        (attributesMarkup element.attributes ++ ['>'])) := by
  simp [startTagMarkup, attributesMarkup, String.toList_join, List.flatMap_map]

private theorem exists_cons_of_isTagName {name : String}
    (tagName : IsTagName name) :
    ∃ first tail, name.toList = first :: tail ∧ first.isAlpha = true := by
  have alpha := tagName.alpha
  cases chars : name.toList with
  | nil => simp [chars] at alpha
  | cons first tail =>
      rw [chars] at alpha
      exact ⟨first, tail, rfl, alpha⟩

private theorem readContent?_alpha {first : Char} (alpha : first.isAlpha = true)
    (rest : List Char) :
    readContent? ('<' :: first :: rest) = readStartTag? (first :: rest) := by
  rw [readContent?]
  · simp [alpha]
  all_goals
    intros
    simp_all

theorem readStartTag?_written {element : Element} (safe : TagSafe element)
    (rest : List Char) :
    readStartTag? (element.localName.toList ++
        (attributesMarkup element.attributes ++ '>' :: rest)) =
      some (startTagOf element, rest) := by
  have behind : (attributesMarkup element.attributes ++
      '>' :: rest).head?.all endsTagName = true := by
    cases element.attributes with
    | nil => simp [attributesMarkup, endsTagName]
    | cons pair attributes =>
        simp [attributesMarkup, toList_attributeMarkup, endsTagName,
          Text.isSpace]
  obtain ⟨taken, dropped⟩ := takeWhile_append_stop safe.name.inside behind
  rw [readStartTag?, taken, dropped, readAttributes?_written _ [] safe.attributes
    (by simpa using safe.distinct)]
  simp [startTagOf, tagAttributes, folded]

private theorem isAlpha_ne {first : Char} (alpha : first.isAlpha = true) :
    first ≠ '>' := by
  rintro rfl
  contradiction

/-- A start tag is read back. -/
theorem readContent?_startTag {element : Element} (safe : TagSafe element)
    (rest : List Char) :
    readContent? ((startTagMarkup element).toList ++ rest) =
      some (startTagOf element, rest) := by
  obtain ⟨first, tail, chars, alpha⟩ := exists_cons_of_isTagName safe.name
  have read := readStartTag?_written safe rest
  rw [chars, List.cons_append] at read
  have written : (startTagMarkup element).toList ++ rest =
      '<' :: first :: (tail ++
        (attributesMarkup element.attributes ++ '>' :: rest)) := by
    rw [toList_startTagMarkup, chars]
    simp
  rw [written, readContent?_alpha alpha, read]

/-- An end tag is read back. -/
theorem readContent?_endTag {element : Element}
    (name : IsTagName element.localName) (rest : List Char) :
    readContent? ((endTagMarkup element).toList ++ rest) =
      some (.endTag (Text.lower element.localName), rest) := by
  obtain ⟨first, tail, chars, alpha⟩ := exists_cons_of_isTagName name
  have written : (endTagMarkup element).toList ++ rest =
      '<' :: '/' :: first :: (tail ++ '>' :: rest) := by
    simp [toList_endTagMarkup, chars]
  have stops : ('>' :: rest).head?.all endsTagName = true := by
    simp [endsTagName]
  obtain ⟨taken, dropped⟩ := takeWhile_append_stop name.inside stops
  rw [chars, List.cons_append] at taken dropped
  rw [written, readContent?]
  · rw [if_pos alpha, readEndTag?, taken, dropped, skipEndTag?, ← chars]
    simp [folded]
  · exact isAlpha_ne alpha

/-! ### Text and comments -/

/-- Characters without `<` are read as one text. -/
theorem readContent?_plain {chars rest : List Char} (plain : '<' ∉ chars)
    (nonempty : chars ≠ []) (behind : rest.head?.all (· = '<') = true) :
    readContent? (chars ++ rest) = some (.text (decoded chars), rest) := by
  have inside : ∀ c ∈ chars, decide (c = '<') = false := by
    intro c member
    exact decide_eq_false fun same => plain (same ▸ member)
  obtain ⟨taken, dropped⟩ := takeWhile_append_stop inside behind
  have read : readText (chars ++ rest) = (decoded chars, rest) := by
    have same : (fun c => decide (c ≠ '<')) = fun c => !decide (c = '<') := by
      funext c
      simp
    rw [readText, same, taken, dropped]
  cases chars with
  | nil => contradiction
  | cons first tail =>
      have notOpen : first ≠ '<' := fun same =>
        plain (same ▸ List.mem_cons_self)
      rw [List.cons_append] at read ⊢
      rw [readContent?]
      · rw [read]
      all_goals
        intros
        simp_all

/-- Text is read back when markup or nothing follows it. -/
theorem readContent?_text {text : String} (nonempty : text ≠ "")
    {rest : List Char} (behind : rest.head?.all (· = '<') = true) :
    readContent? ((textMarkup false text).toList ++ rest) =
      some (.text text, rest) := by
  have written : (textMarkup false text).toList =
      CharacterReference.escapeText text.toList := by
    simp [textMarkup]
  have escaped : CharacterReference.escapeText text.toList ≠ [] :=
    CharacterReference.escapeText_ne_nil
      fun empty => nonempty (String.toList_eq_nil_iff.mp empty)
  rw [written, readContent?_plain (CharacterReference.not_mem_escapeText _)
    escaped behind, decoded, CharacterReference.decode_escapeText,
    String.ofList_toList]

/-- Comment text that does not end its comment early. -/
@[mk_iff]
structure IsCommentText (text : String) : Prop where
  notClosed : ¬">".toList <+: text.toList
  notDashClosed : ¬"->".toList <+: text.toList
  noEnd : ¬"-->".toList <:+: text.toList
  noBangEnd : ¬"--!>".toList <:+: text.toList

instance (text : String) : Decidable (IsCommentText text) :=
  decidable_of_iff' _ (isCommentText_iff text)

private theorem commentText_written {text : List Char}
    (noEnd : ¬"-->".toList <:+: text) (noBangEnd : ¬"--!>".toList <:+: text)
    (rest : List Char) :
    commentText (text ++ '-' :: '-' :: '>' :: rest) = (text, rest) := by
  induction text with
  | nil => rw [List.nil_append, commentText]
  | cons c text induction =>
      have later := induction
        (fun early => noEnd (early.trans (List.suffix_cons c text).isInfix))
        (fun early => noBangEnd (early.trans (List.suffix_cons c text).isInfix))
      rw [List.cons_append, commentText]
      · rw [later]
      · rintro behind rfl same
        apply noEnd
        rcases text with _ | ⟨second, _ | ⟨third, text⟩⟩
        · simp at same
        · simp at same
        · simp only [List.cons_append, List.cons.injEq] at same
          obtain ⟨rfl, rfl, _⟩ := same
          exact ⟨[], text, rfl⟩
      · rintro behind rfl same
        apply noBangEnd
        rcases text with _ | ⟨second, _ | ⟨third, _ | ⟨fourth, text⟩⟩⟩
        · simp at same
        · simp at same
        · simp at same
        · simp only [List.cons_append, List.cons.injEq] at same
          obtain ⟨rfl, rfl, rfl, _⟩ := same
          exact ⟨[], text, rfl⟩

/-- A comment is read back. -/
theorem readContent?_comment {text : String} (safe : IsCommentText text)
    (rest : List Char) :
    readContent? ("<!--".toList ++ text.toList ++ "-->".toList ++ rest) =
      some (.comment text, rest) := by
  have written : "<!--".toList ++ text.toList ++ "-->".toList ++ rest =
      '<' :: '!' :: '-' :: '-' ::
        (text.toList ++ '-' :: '-' :: '>' :: rest) := by
    simp
  rw [written, readContent?, readDeclaration, readComment]
  · rw [commentText_written safe.noEnd safe.noBangEnd]
    simp
  · intro behind same
    apply safe.notClosed
    rcases chars : text.toList with _ | ⟨first, tail⟩
    · simp [chars] at same
    · simp only [chars, List.cons_append, List.cons.injEq] at same
      obtain ⟨rfl, _⟩ := same
      exact ⟨tail, rfl⟩
  · intro behind same
    apply safe.notDashClosed
    rcases chars : text.toList with _ | ⟨first, _ | ⟨second, tail⟩⟩
    · simp [chars] at same
    · simp [chars] at same
    · simp only [chars, List.cons_append, List.cons.injEq] at same
      obtain ⟨rfl, rfl, _⟩ := same
      exact ⟨tail, rfl⟩

/-! ### Doctypes -/

/-- The name of a doctype: one word in lower case. -/
@[mk_iff]
structure IsDoctypeName (name : String) : Prop where
  lower : Text.lower name = name
  inside : ∀ c ∈ name.toList, Text.isBlank c = false ∧ c ≠ '>'

private theorem firstWord_written {name : List Char}
    (inside : ∀ c ∈ name, Text.isBlank c = false) :
    Text.firstWord (' ' :: name) = name := by
  have blank : Text.isBlank ' ' = true := by decide
  have dropped : name.dropWhile Text.isBlank = name := by
    cases name with
    | nil => rfl
    | cons c rest =>
        rw [List.dropWhile_cons, inside c List.mem_cons_self,
          if_neg Bool.false_ne_true]
  have taken := (takeWhile_append_stop inside
    (rfl : ([] : List Char).head?.all Text.isBlank = true)).1
  rw [List.append_nil] at taken
  rw [Text.firstWord, List.dropWhile_cons, if_pos blank, dropped, taken]

/-- A doctype is read back. -/
theorem readContent?_doctype {name : String} (named : IsDoctypeName name)
    (rest : List Char) :
    readContent? ("<!DOCTYPE ".toList ++ name.toList ++ ">".toList ++ rest) =
      some (.doctype name, rest) := by
  have written : "<!DOCTYPE ".toList ++ name.toList ++ ">".toList ++ rest =
      '<' :: '!' :: ("DOCTYPE".toList ++
        ((' ' :: name.toList) ++ '>' :: rest)) := by
    simp
  have keyword : Text.startsWithIgnoringCase "doctype".toList
      ("DOCTYPE".toList ++ ((' ' :: name.toList) ++ '>' :: rest)) = true := by
    rfl
  have behind : ("DOCTYPE".toList ++ ((' ' :: name.toList) ++ '>' :: rest)).drop
      "doctype".toList.length = (' ' :: name.toList) ++ '>' :: rest := by
    rfl
  have noClose : '>' ∉ ' ' :: name.toList := by
    simp only [List.mem_cons, not_or]
    exact ⟨by decide, fun member => (named.inside _ member).2 rfl⟩
  rw [written, readContent?, readDeclaration]
  · simp only [keyword, if_true, behind, readDoctype,
      splitAt?_append noClose, Option.getD_some,
      firstWord_written fun c member => (named.inside c member).1]
    rw [folded, String.ofList_toList, named.lower]
  · simp

/-! ### Text up to an end tag -/

/-- Text in which the end tag of `tag` occurs. -/
def HoldsEndTag (tag text : List Char) : Prop :=
  ∃ before name stop after, text = before ++ '<' :: '/' :: (name ++ stop :: after) ∧
    name.map Char.toLower = tag.map Char.toLower ∧ endsTagName stop = true

theorem not_holdsEndTag_of_not_mem {tag text : List Char}
    (absent : '<' ∉ text) : ¬HoldsEndTag tag text := by
  rintro ⟨before, name, stop, after, rfl, _⟩
  exact absent (by simp)

private theorem not_startsEndTag {tag text : List Char}
    (plain : '<' ∉ tag) (absent : ¬HoldsEndTag tag text)
    (nonempty : text ≠ []) (rest : List Char) :
    startsEndTag tag (text ++ '<' :: rest) = false := by
  rw [Bool.eq_false_iff]
  intro starts
  rcases text with _ | ⟨first, _ | ⟨second, text⟩⟩
  · contradiction
  · simp [startsEndTag] at starts
  · unfold startsEndTag at starts
    split at starts
    next behind same =>
      simp only [List.cons_append, List.cons.injEq] at same
      obtain ⟨rfl, rfl, rfl⟩ := same
      rw [Bool.and_eq_true, Text.startsWithIgnoringCase, beq_iff_eq] at starts
      obtain ⟨named, stops⟩ := starts
      rcases Nat.lt_trichotomy tag.length text.length with short | same | long
      · rw [List.take_append_of_le_length (Nat.le_of_lt short)] at named
        rw [List.drop_append_of_le_length (Nat.le_of_lt short)] at stops
        cases behind : text.drop tag.length with
        | nil =>
            have ends := List.drop_eq_nil_iff.mp behind
            omega
        | cons stop after =>
            rw [behind] at stops
            exact absent ⟨[], text.take tag.length, stop, after, by
              rw [← behind, List.take_append_drop]
              rfl, named, stops⟩
      · rw [same, List.drop_left] at stops
        simp [endsTagName, Text.isSpace] at stops
      · have member : '<' ∈ (text ++ '<' :: rest).take tag.length := by
          rw [List.take_append, List.mem_append]
          right
          have positive : tag.length - text.length =
              (tag.length - text.length - 1) + 1 := by omega
          rw [positive, List.take_succ_cons]
          exact List.mem_cons_self
        have lowered : '<' ∈ tag.map Char.toLower := by
          rw [← named]
          exact List.mem_map.mpr ⟨'<', member, by decide⟩
        obtain ⟨c, inTag, isOpen⟩ := List.mem_map.mp lowered
        have different : c ≠ '<' := fun same => plain (same ▸ inTag)
        exact toLower_ne (by decide) different isOpen
    next => contradiction

theorem splitAtEndTag_written {tag text : List Char} (plain : '<' ∉ tag)
    (absent : ¬HoldsEndTag tag text) (rest : List Char) :
    splitAtEndTag tag (text ++ '<' :: '/' :: (tag ++ '>' :: rest)) =
      (text, '<' :: '/' :: (tag ++ '>' :: rest)) := by
  induction text with
  | nil =>
      have starts : startsEndTag tag ('<' :: '/' :: (tag ++ '>' :: rest)) =
          true := by
        simp [startsEndTag, Text.startsWithIgnoringCase, endsTagName]
      rw [List.nil_append, splitAtEndTag, if_pos starts]
  | cons c text induction =>
      have later := induction fun ⟨before, name, stop, after, same, fits⟩ =>
        absent ⟨c :: before, name, stop, after, by rw [same]; rfl, fits⟩
      have notHere := not_startsEndTag plain absent (by simp)
        ('/' :: (tag ++ '>' :: rest))
      rw [List.cons_append] at notHere ⊢
      rw [splitAtEndTag, notHere, later]
      rfl

namespace Lexer

private theorem split_written {switch : TextSwitch} (limited : switch.mode ≠ .endless)
    (plain : '<' ∉ switch.tag.toList) {text : List Char}
    (absent : ¬HoldsEndTag switch.tag.toList text) (rest : List Char) :
    switch.split (text ++ '<' :: '/' :: (switch.tag.toList ++ '>' :: rest)) =
      (text, '<' :: '/' :: (switch.tag.toList ++ '>' :: rest)) := by
  unfold TextSwitch.split
  split
  next endless => exact absurd endless limited
  next => exact splitAtEndTag_written plain absent rest
  next => exact splitAtEndTag_written plain absent rest

/-- A switch governs nothing when the end tag follows at once. -/
theorem next_endTag (switch : TextSwitch)
    (limited : switch.mode ≠ .endless) (plain : '<' ∉ switch.tag.toList) (rest : List Char) :
    ({ rest := '<' :: '/' :: (switch.tag.toList ++ '>' :: rest)
       switch := some switch } : Lexer).next =
      ({ rest := '<' :: '/' :: (switch.tag.toList ++ '>' :: rest) } :
        Lexer).next := by
  have split := split_written limited plain
    (not_holdsEndTag_of_not_mem List.not_mem_nil) rest
  rw [List.nil_append] at split
  simp only [next, split, List.isEmpty_nil, if_true]

/-- A switch governs the text up to the end tag. -/
theorem next_governed (switch : TextSwitch)
    (limited : switch.mode ≠ .endless) (plain : '<' ∉ switch.tag.toList) {text : List Char}
    (absent : ¬HoldsEndTag switch.tag.toList text) (nonempty : text ≠ [])
    (rest : List Char) :
    ({ rest := text ++ '<' :: '/' :: (switch.tag.toList ++ '>' :: rest)
       switch := some switch } : Lexer).next =
      (some (.text (switch.read text)),
        { rest := '<' :: '/' :: (switch.tag.toList ++ '>' :: rest) }) := by
  have notEmpty : text.isEmpty = false := by simpa using nonempty
  simp only [next, split_written limited plain absent rest, notEmpty,
    Bool.false_eq_true, if_false]

end Lexer

end MarkupHarden.Html
