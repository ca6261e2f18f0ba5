import Mathlib.Data.List.TakeWhile
import MarkupHarden.Proofs.Html.Spelling

/-!
# What tokens are read

Whatever the markup, the names in a start tag are those of a tag that can be
written, and a comment is one that can be written.  Behind the text of a
text-only element comes its end tag or the end of the markup.
-/

namespace MarkupHarden.Html

/-- A token of which the serializer could have written the markup. -/
def IsToken : Token → Prop
  | .startTag name attributes _ => IsTag name attributes
  | .comment text => IsCommentText text
  | .doctype name => IsDoctypeName name
  | .endTag _ | .text _ => True

/-! ### Comments -/

private theorem commentText_prefix (chars : List Char) :
    (commentText chars).1 <+: chars := by
  fun_induction commentText chars with
  | case1 => exact List.nil_prefix
  | case2 => exact List.nil_prefix
  | case3 => exact List.nil_prefix
  | case4 c rest _ _ text behind read induction =>
      rw [read] at induction
      exact List.cons_prefix_cons.mpr ⟨rfl, induction⟩

private theorem noEnd_commentText (chars : List Char) :
    ¬"-->".toList <:+: (commentText chars).1 ∧
      ¬"--!>".toList <:+: (commentText chars).1 := by
  fun_induction commentText chars with
  | case1 => simp
  | case2 => simp
  | case3 => simp
  | case4 c rest notEnd notBangEnd text behind read induction =>
      have inside := commentText_prefix rest
      rw [read] at induction inside
      have whole : c :: text <+: c :: rest :=
        List.cons_prefix_cons.mpr ⟨rfl, inside⟩
      refine ⟨?_, ?_⟩
      · intro ends
        rcases List.infix_cons_iff.mp ends with first | later
        · obtain ⟨tail, same⟩ := first.trans whole
          exact notEnd tail (List.cons.inj same.symm).1
            (List.cons.inj same.symm).2
        · exact induction.1 later
      · intro ends
        rcases List.infix_cons_iff.mp ends with first | later
        · obtain ⟨tail, same⟩ := first.trans whole
          exact notBangEnd tail (List.cons.inj same.symm).1
            (List.cons.inj same.symm).2
        · exact induction.2 later

private theorem isCommentText_ofList {text : List Char}
    (notClosed : ¬">".toList <+: text) (notDashClosed : ¬"->".toList <+: text)
    (noEnd : ¬"-->".toList <:+: text) (noBangEnd : ¬"--!>".toList <:+: text) :
    IsCommentText (String.ofList text) := by
  have same : (String.ofList text).toList = text := String.toList_ofList
  rw [isCommentText_iff, same]
  exact ⟨notClosed, notDashClosed, noEnd, noBangEnd⟩

private theorem isCommentText_empty : IsCommentText "" := by
  decide

private theorem isToken_readComment (chars : List Char) :
    IsToken (readComment chars).1 := by
  unfold readComment
  split
  · exact isCommentText_empty
  · exact isCommentText_empty
  next notClosed notDashClosed =>
    obtain ⟨noEnd, noBangEnd⟩ := noEnd_commentText chars
    have inside := commentText_prefix chars
    apply isCommentText_ofList
    · intro closed
      obtain ⟨tail, same⟩ := closed.trans inside
      exact notClosed tail same.symm
    · intro closed
      obtain ⟨tail, same⟩ := closed.trans inside
      exact notDashClosed tail same.symm
    · exact noEnd
    · exact noBangEnd

private theorem not_mem_splitAt? (chars : List Char) :
    '>' ∉ ((splitAt? '>' chars).getD (chars, [])).1 := by
  induction chars with
  | nil => simp [splitAt?]
  | cons c rest induction =>
      unfold splitAt?
      split
      · simp
      next other =>
        cases found : splitAt? '>' rest with
        | none =>
            rw [found] at induction
            simpa [Ne.symm other] using induction
        | some parts =>
            rw [found] at induction
            simpa [Ne.symm other] using induction

private theorem isToken_readBogusComment (chars : List Char) :
    IsToken (readBogusComment chars).1 := by
  have noClose := not_mem_splitAt? chars
  change IsCommentText
    (String.ofList ((splitAt? '>' chars).getD (chars, [])).1)
  apply isCommentText_ofList
  · exact fun closed => noClose (closed.subset (by simp))
  · exact fun closed => noClose (closed.subset (by simp))
  · exact fun ends => noClose (ends.subset (by simp))
  · exact fun ends => noClose (ends.subset (by simp))

/-! ### Doctypes -/

private theorem isBlank_toLower {c : Char} (notBlank : Text.isBlank c = false) :
    Text.isBlank c.toLower = false := by
  unfold Char.toLower
  split
  next upper =>
    have least : 65 ≤ c.val.toNat := UInt32.le_iff_toNat_le.mp upper.1
    have most : c.val.toNat ≤ 90 := UInt32.le_iff_toNat_le.mp upper.2
    have shift : ('a'.val - 'A'.val).toNat = 32 := rfl
    simp only [Text.isBlank, Char.toNat, Bool.or_eq_false_iff,
      Bool.and_eq_false_iff, decide_eq_false_iff_not, UInt32.toNat_add]
    omega
  next => exact notBlank

private theorem isToken_readDoctype (chars : List Char) :
    IsToken (readDoctype chars).1 := by
  have noClose := not_mem_splitAt? chars
  change IsDoctypeName
    (folded (Text.firstWord ((splitAt? '>' chars).getD (chars, [])).1))
  generalize ((splitAt? '>' chars).getD (chars, [])).1 = text at noClose
  refine ⟨Text.lower_lower _, ?_⟩
  intro c member
  rw [folded, Text.toList_lower, String.toList_ofList] at member
  obtain ⟨old, oldMember, rfl⟩ := List.mem_map.mp member
  have inside : Text.isBlank old = false := by
    simpa using List.mem_takeWhile_imp oldMember
  have old : old ∈ text :=
    (List.dropWhile_sublist _).subset
      ((List.takeWhile_prefix _).subset oldMember)
  refine ⟨isBlank_toLower inside, toLower_ne (by decide) ?_⟩
  rintro rfl
  exact noClose old

private theorem isToken_readDeclaration (chars : List Char) :
    IsToken (readDeclaration chars).1 := by
  unfold readDeclaration
  split
  · exact isToken_readComment _
  · dsimp only
    split
    · exact isToken_readDoctype _
    · exact isToken_readBogusComment chars

/-! ### Start tags -/

private theorem isAlpha_head {p : Char → Bool} {first : Char} {rest : List Char}
    (taken : p first = true) :
    ((first :: rest).takeWhile p).head? = some first := by
  rw [List.takeWhile_cons, if_pos taken, List.head?_cons]

private theorem endsTagName_of_isAlpha {c : Char} (alpha : c.isAlpha = true) :
    endsTagName c = false := by
  rw [Bool.eq_false_iff]
  intro ends
  simp only [endsTagName, Text.isSpace, Bool.or_eq_true, decide_eq_true_eq]
    at ends
  rcases ends with ((((((rfl | rfl) | rfl) | rfl) | rfl) | rfl) | rfl) <;>
    contradiction

private theorem isTagName_folded {chars : List Char}
    (alpha : chars.head?.any Char.isAlpha = true) :
    IsTagName (folded (chars.takeWhile (!endsTagName ·))) := by
  apply IsTagName.lower
  have same : (String.ofList (chars.takeWhile (!endsTagName ·))).toList =
      chars.takeWhile (!endsTagName ·) := String.toList_ofList
  constructor
  · rw [same]
    cases chars with
    | nil => contradiction
    | cons first rest =>
        rw [isAlpha_head (by simp [endsTagName_of_isAlpha alpha])]
        exact alpha
  · rw [same]
    intro c member
    simpa using (List.mem_takeWhile_imp member)

private theorem endsAttributeName_eq_false {c : Char}
    (inside : endsAttributeName c = false) :
    endsTagName c = false ∧ c ≠ '=' := by
  simpa [endsAttributeName, endsTagName] using inside

/-- The name of an attribute that starts behind spaces, slashes and the end of
the tag. -/
private theorem isAttributeName_folded {first : Char} {rest : List Char}
    (starts : endsTagName first = false) :
    IsAttributeName (folded (first :: rest.takeWhile (!endsAttributeName ·))) := by
  apply IsAttributeName.lower
  have same : (String.ofList
      (first :: rest.takeWhile (!endsAttributeName ·))).toList =
        first :: rest.takeWhile (!endsAttributeName ·) := String.toList_ofList
  have later : ∀ c ∈ rest.takeWhile (!endsAttributeName ·),
      endsTagName c = false ∧ c ≠ '=' := by
    intro c member
    apply endsAttributeName_eq_false
    simpa using (List.mem_takeWhile_imp member)
  constructor
  · intro empty
    rw [empty] at same
    contradiction
  · rw [same]
    intro c member
    rcases List.mem_cons.mp member with rfl | inside
    · exact starts
    · exact (later c inside).1
  · rw [same]
    exact fun c member => (later c member).2

private theorem readAttribute?_name {first : Char} {rest tail : List Char}
    {pair : String × String}
    (found : readAttribute? first rest = some (pair, tail)) :
    pair.1 = folded (first :: rest.takeWhile (!endsAttributeName ·)) := by
  unfold readAttribute? at found
  simp only at found
  split at found
  · obtain ⟨_, _, same⟩ := Option.map_eq_some_iff.mp found
    cases same
    rfl
  · cases found
    rfl

private theorem areTagAttributes_append {attributes : TagAttributes}
    (are : AreTagAttributes attributes) {pair : String × String}
    (named : IsAttributeName pair.1) (lower : Text.lower pair.1 = pair.1)
    (fresh : ¬attributes.any (·.1 = pair.1) = true) :
    AreTagAttributes (attributes ++ [pair]) := by
  refine ⟨?_, ?_, ?_⟩
  · intro other member
    rcases List.mem_append.mp member with old | new
    · exact are.keys other old
    · rw [List.mem_singleton.mp new]
      exact named
  · intro other member
    rcases List.mem_append.mp member with old | new
    · exact are.lowerKeys other old
    · rw [List.mem_singleton.mp new]
      exact lower
  · rw [List.map_append, List.map_singleton, List.nodup_append]
    refine ⟨are.distinct, List.nodup_singleton _, ?_⟩
    intro key member other new same
    obtain ⟨old, oldMember, rfl⟩ := List.mem_map.mp member
    apply fresh
    rw [List.any_eq_true]
    exact ⟨old, oldMember, by simp [same, List.mem_singleton.mp new]⟩

private theorem endsTagName_of_skipSpaces {chars tail : List Char} {c : Char}
    (spaces : skipSpaces chars = c :: tail) (notClose : c = '>' → False)
    (notSlash : c = '/' → False) : endsTagName c = false := by
  have first : chars.find? (fun other => !Text.isSpace other) = some c := by
    rw [List.find?_not_eq_head?_dropWhile]
    exact congrArg List.head? spaces
  have notSpace := List.find?_some first
  rw [Bool.not_eq_true'] at notSpace
  rw [endsTagName, notSpace, Bool.false_or, Bool.or_eq_false_iff,
    decide_eq_false_iff_not, decide_eq_false_iff_not]
  exact ⟨notSlash, notClose⟩

private theorem areTagAttributes_readAttributes? {attributes : TagAttributes}
    {chars rest : List Char} {tag : TagAttributes × Bool}
    (are : AreTagAttributes attributes)
    (found : readAttributes? attributes chars = some (tag, rest)) :
    AreTagAttributes tag.1 := by
  fun_induction readAttributes? attributes chars with
  | case1 => contradiction
  | case2 =>
      cases found
      exact are
  | case3 =>
      cases found
      exact are
  | case4 _ _ _ _ _ _ induction => exact induction are found
  | case5 => contradiction
  | case6 _ _ _ _ _ _ _ _ _ _ _ _ _ _ induction => exact induction are found
  | case7 _ _ _ _ notClose _ notSlash spaces _ _ read _ _ fresh induction =>
      have starts := endsTagName_of_skipSpaces spaces notClose notSlash
      have name := readAttribute?_name read
      refine induction (areTagAttributes_append are ?_ ?_ fresh) found
      · rw [name]
        exact isAttributeName_folded starts
      · rw [name]
        exact Text.lower_lower _

private theorem isToken_readStartTag? {chars rest : List Char} {token : Token}
    (alpha : chars.head?.any Char.isAlpha = true)
    (found : readStartTag? chars = some (token, rest)) : IsToken token := by
  obtain ⟨⟨⟨attributes, selfClosing⟩, _⟩, read, same⟩ :=
    Option.map_eq_some_iff.mp found
  cases same
  have are := areTagAttributes_readAttributes? areTagAttributes_nil read
  exact ⟨are, isTagName_folded alpha, Text.lower_lower _⟩

/-! ### All tokens -/

private theorem isToken_readEndTag? {chars rest : List Char} {token : Token}
    (found : readEndTag? chars = some (token, rest)) : IsToken token := by
  obtain ⟨_, _, same⟩ := Option.map_eq_some_iff.mp found
  cases same
  trivial

theorem isToken_readContent? {chars rest : List Char} {token : Token}
    (found : readContent? chars = some (token, rest)) : IsToken token := by
  fun_induction readContent? chars with
  | case1 => contradiction
  | case2 tail =>
      have same : (readDeclaration tail).1 = token :=
        congrArg Prod.fst (Option.some.inj found)
      rw [← same]
      exact isToken_readDeclaration tail
  | case3 tail =>
      cases found
      exact isToken_readBogusComment _
  | case4 =>
      cases found
      trivial
  | case5 _ induction => exact induction found
  | case6 => exact isToken_readEndTag? found
  | case7 c tail =>
      cases found
      exact isToken_readBogusComment _
  | case8 _ _ _ _ _ _ alpha => exact isToken_readStartTag? alpha found
  | case9 =>
      cases found
      trivial
  | case10 =>
      cases found
      trivial

theorem Lexer.isToken_next {lexer after : Lexer} {token : Token}
    (read : lexer.next = (some token, after)) : IsToken token := by
  have ofContent : ∀ {chars : List Char},
      Lexer.content chars = (some token, after) → IsToken token := by
    intro chars found
    unfold Lexer.content at found
    cases content : readContent? chars with
    | none =>
        rw [content] at found
        cases found
    | some pair =>
        rw [content] at found
        cases found
        exact isToken_readContent? content
  unfold Lexer.next at read
  cases switch : lexer.switch with
  | none =>
      rw [switch] at read
      exact ofContent read
  | some switch =>
      simp only [switch] at read
      split at read
      · exact ofContent read
      · cases read
        trivial

/-! ### Text up to an end tag -/

private theorem startsEndTag_of_name {tag name : List Char} {stop : Char}
    (named : name.map Char.toLower = tag.map Char.toLower)
    (stops : endsTagName stop = true) (rest : List Char) :
    startsEndTag tag ('<' :: '/' :: (name ++ stop :: rest)) = true := by
  have length : name.length = tag.length := by
    have same := congrArg List.length named
    rwa [List.length_map, List.length_map] at same
  rw [startsEndTag, Text.startsWithIgnoringCase, ← length, List.take_left,
    List.drop_left, named, beq_self_eq_true]
  exact stops

/-- The text in front of the first end tag holds none. -/
private theorem splitAtEndTag_facts (tag chars : List Char) :
    ¬HoldsEndTag tag (splitAtEndTag tag chars).1 ∧
      ((splitAtEndTag tag chars).2 = [] ∨
        startsEndTag tag (splitAtEndTag tag chars).2 = true) := by
  induction chars with
  | nil =>
      rw [splitAtEndTag]
      exact ⟨not_holdsEndTag_of_not_mem List.not_mem_nil, Or.inl rfl⟩
  | cons c rest induction =>
      obtain ⟨noEnd, behind⟩ := induction
      rw [splitAtEndTag]
      split
      next starts =>
        exact ⟨not_holdsEndTag_of_not_mem List.not_mem_nil, Or.inr starts⟩
      next notHere =>
        have whole := splitAtEndTag_append tag rest
        refine ⟨?_, behind⟩
        rintro ⟨before, name, stop, after, same, named, stops⟩
        cases before with
        | nil =>
            obtain ⟨rfl, inside⟩ := List.cons.inj same
            apply notHere
            rw [← whole, inside]
            have read := startsEndTag_of_name named stops
              (after ++ (splitAtEndTag tag rest).2)
            simpa using read
        | cons first before =>
            obtain ⟨_, inside⟩ := List.cons.inj same
            exact noEnd ⟨before, name, stop, after, inside, named, stops⟩

private theorem endsTagName_of_toLower {c : Char}
    (inside : endsTagName c.toLower = false) : endsTagName c = false := by
  rw [Bool.eq_false_iff]
  intro ends
  have same : c.toLower = c := by
    simp only [endsTagName, Text.isSpace, Bool.or_eq_true, decide_eq_true_eq]
      at ends
    rcases ends with ((((((rfl | rfl) | rfl) | rfl) | rfl) | rfl) | rfl) <;>
      rfl
  rw [same, ends] at inside
  contradiction

/-- What looks like an end tag is read as one, unless the markup ends in it. -/
theorem readContent?_of_startsEndTag {name : String} (tagName : IsTagName name)
    {chars : List Char} (starts : startsEndTag name.toList chars = true) :
    readContent? chars = none ∨
      ∃ rest, readContent? chars = some (.endTag (Text.lower name), rest) := by
  unfold startsEndTag at starts
  split at starts
  next tail =>
    rw [Bool.and_eq_true, Text.startsWithIgnoringCase, beq_iff_eq] at starts
    obtain ⟨named, stops⟩ := starts
    have parts := List.take_append_drop name.toList.length tail
    generalize tail.take name.toList.length = taken at named parts
    generalize tail.drop name.toList.length = behind at stops parts
    subst parts
    have lower : folded taken = Text.lower name := by
      rw [folded, Text.lower, Text.lower, String.toList_ofList, named]
    have inside : ∀ c ∈ taken, endsTagName c = false := by
      intro c member
      apply endsTagName_of_toLower
      have lowered : c.toLower ∈ name.toList.map Char.toLower :=
        named ▸ List.mem_map.mpr ⟨c, member, rfl⟩
      obtain ⟨old, oldMember, same⟩ := List.mem_map.mp lowered
      rw [← same]
      exact endsTagName_toLower (tagName.inside old oldMember)
    obtain ⟨before, after⟩ := takeWhile_append_stop inside stops
    cases taken with
    | nil =>
        have alpha := tagName.alpha
        rw [List.map_nil, eq_comm, List.map_eq_nil_iff] at named
        rw [named] at alpha
        exact Bool.noConfusion alpha
    | cons first rest =>
        have alpha : first.isAlpha = true := by
          have lowerAlpha := tagName.lower.alpha
          rw [Text.toList_lower, ← named] at lowerAlpha
          exact (Text.isAlpha_toLower first).symm.trans lowerAlpha
        have notClose : first ≠ '>' := by
          rintro rfl
          contradiction
        rw [List.cons_append] at before after ⊢
        rw [readContent?]
        · rw [if_pos alpha, readEndTag?, before, after, lower]
          cases skipEndTag? none behind with
          | none => exact Or.inl rfl
          | some tail => exact Or.inr ⟨tail, rfl⟩
        · exact notClose
  next => contradiction

private theorem split_facts (switch : TextSwitch) (chars : List Char) :
    (switch.split chars).1 ++ (switch.split chars).2 = chars ∧
      ((switch.split chars).2 = [] ∨
        startsEndTag switch.tag.toList (switch.split chars).2 = true) ∧
      (switch.mode = .verbatim →
        ¬HoldsEndTag switch.tag.toList (switch.split chars).1) := by
  obtain ⟨noEnd, behind⟩ := splitAtEndTag_facts switch.tag.toList chars
  have whole := splitAtEndTag_append switch.tag.toList chars
  unfold TextSwitch.split
  cases mode : switch.mode with
  | endless => exact ⟨List.append_nil chars, Or.inl rfl, nofun⟩
  | verbatim => exact ⟨whole, behind, fun _ => noEnd⟩
  | escapable => exact ⟨whole, behind, fun _ => noEnd⟩

/-- Text that a switch governs comes first, if there is any.  Behind it follow
the end tag or the end of the markup. -/
theorem Lexer.next_of_switch (chars : List Char) (switch : TextSwitch) :
    let lexer : Lexer := { rest := chars, switch := some switch }
    ((chars = [] ∨ startsEndTag switch.tag.toList chars = true) ∧
        lexer.next = Lexer.content chars) ∨
      ∃ text rest, lexer.next = (some (.text text), { rest }) ∧
        (rest = [] ∨ startsEndTag switch.tag.toList rest = true) ∧
          (switch.mode = .verbatim →
            ¬HoldsEndTag switch.tag.toList text.toList) := by
  obtain ⟨whole, behind, noEnd⟩ := split_facts switch chars
  simp only [next]
  generalize switch.split chars = parts at noEnd behind whole ⊢
  obtain ⟨text, rest⟩ := parts
  cases text with
  | nil =>
      rw [List.nil_append] at whole
      subst whole
      exact Or.inl ⟨behind, rfl⟩
  | cons first text =>
      refine Or.inr ⟨switch.read (first :: text), rest, rfl, behind, ?_⟩
      intro verbatim
      have read : switch.read (first :: text) =
          String.ofList (first :: text) := by
        simp only [TextSwitch.read, verbatim]
      rw [read, String.toList_ofList]
      exact noEnd verbatim

end MarkupHarden.Html
