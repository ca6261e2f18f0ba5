import MarkupHarden.Proofs.Html.Scanner

/-!
# Searching bytes for characters

An index into the bytes of a text that is not inside a character stands in front
of the characters that are left.  A search from there for something that starts
with an ASCII character ends in front of the characters where a search through
characters stops, since no byte inside a character is an ASCII character.
-/

namespace MarkupHarden.Html

namespace Scanner

open Text (AsciiOnly asciiOnly_eq utf8)

variable {input : String} {index start stop : Nat}
  {c : Char} {chars text rest : List Char}

theorem bytes_eq (input : String) : bytes input = utf8 input.toList := by
  have same := Text.toList_toUTF8 input.toList
  rw [String.ofList_toList] at same
  exact same

theorem length_bytes (input : String) :
    (bytes input).length = input.utf8ByteSize := rfl

theorem length_utf8_toList (word : String) :
    (utf8 word.toList).length = word.utf8ByteSize := by
  rw [← bytes_eq, length_bytes]

/-! ### Tests for ASCII characters -/

theorem asciiOnly_endsTagName : AsciiOnly endsTagName :=
  (Text.asciiOnly_isSpace.or (asciiOnly_eq '/' (by decide))).or
    (asciiOnly_eq '>' (by decide))

theorem asciiOnly_endsAttributeName : AsciiOnly endsAttributeName :=
  asciiOnly_endsTagName.or (asciiOnly_eq '=' (by decide))

theorem asciiOnly_endsBareValue : AsciiOnly endsBareValue :=
  Text.asciiOnly_isSpace.or (asciiOnly_eq '>' (by decide))

/-! ### Places between characters -/

/-- An index is in front of the characters that are left. -/
def Stands (input : String) (index : Nat) (rest : List Char) : Prop :=
  ∃ before, input.toList = before ++ rest ∧ index = (utf8 before).length

theorem stands_start (input : String) : Stands input 0 input.toList :=
  ⟨[], rfl, rfl⟩

namespace Stands

theorem drop (stands : Stands input index rest) :
    (bytes input).drop index = utf8 rest := by
  obtain ⟨before, whole, rfl⟩ := stands
  rw [bytes_eq, whole, Text.utf8_append, List.drop_left]

theorem add_length (stands : Stands input index rest) :
    index + (utf8 rest).length = input.utf8ByteSize := by
  obtain ⟨before, whole, rfl⟩ := stands
  rw [← length_bytes, bytes_eq, whole, Text.utf8_append, List.length_append]

theorem le (stands : Stands input index rest) :
    index ≤ input.utf8ByteSize := by
  have whole := stands.add_length
  omega

theorem isValid (stands : Stands input index rest) :
    (⟨index⟩ : String.Pos.Raw).IsValid input := by
  obtain ⟨before, whole, rfl⟩ := stands
  rw [String.Pos.Raw.isValid_iff_exists_append]
  refine ⟨String.ofList before, String.ofList rest, ?_, ?_⟩
  · rw [← String.ofList_append, ← whole, String.ofList_toList]
  · rw [String.Pos.Raw.ext_iff, String.byteIdx_rawEndPos, ← length_bytes,
      bytes_eq, String.toList_ofList]

theorem behind (stands : Stands input index (text ++ rest)) :
    Stands input (index + (utf8 text).length) rest := by
  obtain ⟨before, whole, rfl⟩ := stands
  refine ⟨before ++ text, ?_, ?_⟩
  · rw [whole, List.append_assoc]
  · rw [Text.utf8_append, List.length_append]

theorem finish (stands : Stands input index rest) :
    Stands input input.utf8ByteSize [] := by
  have whole := stands.add_length
  rw [← List.append_nil rest] at stands
  exact whole ▸ stands.behind

/-- An index says what is left. -/
theorem stop_eq (first : Stands input start (text ++ rest))
    (second : Stands input stop rest) :
    stop = start + (utf8 text).length := by
  have one := first.behind.add_length
  have other := second.add_length
  omega

theorem slice (first : Stands input start chars)
    (second : Stands input stop rest) (whole : text ++ rest = chars) :
    Scanner.slice input start stop = .ok text := by
  subst whole
  have stop_eq := first.stop_eq second
  have valid : start ≤ stop ∧ (⟨start⟩ : String.Pos.Raw).IsValid input ∧
      (⟨stop⟩ : String.Pos.Raw).IsValid input :=
    ⟨stop_eq ▸ Nat.le_add_right _ _, first.isValid, second.isValid⟩
  have bytesCut : ((bytes input).drop start).take (stop - start) =
      utf8 text := by
    rw [first.drop, stop_eq, Nat.add_sub_cancel_left, Text.utf8_append,
      List.take_left]
  have cut : input.extract ⟨⟨start⟩, valid.2.1⟩ ⟨⟨stop⟩, valid.2.2⟩ =
      String.ofList text := by
    apply String.toByteArray_inj.mp
    apply ByteArray.ext
    apply Array.toList_inj.mp
    rw [String.toByteArray_extract, ByteArray.data_extract,
      Array.toList_extract]
    exact bytesCut.trans (Text.toList_toUTF8 text).symm
  rw [Scanner.slice, dif_pos valid, cut, String.toList_ofList]

theorem byteSlice (first : Stands input start chars)
    (second : Stands input stop rest) (whole : text ++ rest = chars) :
    Scanner.byteSlice input start stop = .ok (utf8 text) := by
  subst whole
  have stop_eq := first.stop_eq second
  have ordered : start ≤ stop ∧ stop ≤ input.utf8ByteSize :=
    ⟨stop_eq ▸ Nat.le_add_right _ _, second.le⟩
  rw [Scanner.byteSlice, if_pos ordered, List.drop_take, first.drop, stop_eq,
    Nat.add_sub_cancel_left, Text.utf8_append, List.take_left]

theorem lt_of_length_lt {others : List Char}
    (first : Stands input start rest) (second : Stands input stop others)
    (fewer : others.length < rest.length) : start < stop := by
  have whole := first.add_length
  have otherWhole := second.add_length
  obtain ⟨before, split, -⟩ := first
  obtain ⟨otherBefore, otherSplit, -⟩ := second
  rcases List.append_eq_append_iff.mp (otherSplit.symm.trans split) with
    ⟨between, -, equal⟩ | ⟨between, -, equal⟩
  · rw [equal, List.length_append] at fewer
    omega
  · cases between with
    | nil =>
        rw [equal] at fewer
        simp at fewer
    | cons c between =>
        rw [equal, Text.utf8_append, List.length_append, Text.utf8_cons,
          List.length_append] at whole
        have := Text.length_utf8EncodeChar_pos c
        omega

/-! ### Single bytes -/

theorem charAt?_nil (stands : Stands input index []) :
    charAt? input index = none := by
  have atEnd : (bytes input).length ≤ index := stands.add_length.ge
  rw [charAt?, List.getElem?_eq_none atEnd, Option.map_none]

private theorem charAt?_add (stands : Stands input index rest) (offset : Nat) :
    charAt? input (index + offset) =
      (utf8 rest)[offset]?.map Char.ofUInt8 := by
  rw [charAt?, ← stands.drop, List.getElem?_drop]

theorem charAt?_ascii (stands : Stands input index (c :: rest))
    (ascii : c.toNat < 128) : charAt? input index = some c := by
  have first := stands.charAt?_add 0
  rw [Text.utf8_cons, Text.utf8EncodeChar_of_lt ascii] at first
  rw [← Nat.add_zero index, first]
  exact congrArg some (Text.ofUInt8_ofNat ascii)

/-- No byte of a character beyond ASCII is an ASCII character. -/
theorem charAt?_beyond (stands : Stands input index (c :: rest))
    (beyond : 128 ≤ c.toNat) {offset : Nat}
    (inside : offset < (String.utf8EncodeChar c).length) :
    ∃ d, charAt? input (index + offset) = some d ∧ 128 ≤ d.toNat := by
  rw [stands.charAt?_add, Text.utf8_cons, List.getElem?_append_left inside,
    List.getElem?_eq_getElem inside]
  exact ⟨_, rfl, Text.le_of_mem_utf8EncodeChar beyond (List.getElem_mem inside)⟩

/-- The first byte of a character passes for the character. -/
theorem charAt?_cons (stands : Stands input index (c :: rest)) :
    ∃ d, charAt? input index = some d ∧ Text.Alike d c := by
  rcases Nat.lt_or_ge c.toNat 128 with ascii | beyond
  · exact ⟨c, stands.charAt?_ascii ascii, fun _ _ => rfl⟩
  · have inside := Text.length_utf8EncodeChar_pos c
    obtain ⟨d, found, large⟩ := stands.charAt?_beyond beyond inside
    exact ⟨d, found, fun test asciiOnly =>
      (asciiOnly d large).trans (asciiOnly c beyond).symm⟩

theorem passes_eq {test : Char → Bool} (asciiOnly : AsciiOnly test)
    (stands : Stands input index rest) :
    passes input test index = rest.head?.any test := by
  cases rest with
  | nil => rw [passes, stands.charAt?_nil]; rfl
  | cons c rest =>
      obtain ⟨d, found, alike⟩ := stands.charAt?_cons
      rw [passes, found]
      exact alike test asciiOnly

theorem passes_inside {test : Char → Bool} (asciiOnly : AsciiOnly test)
    (stands : Stands input index (c :: rest)) {offset : Nat}
    (positive : 0 < offset)
    (inside : offset < (String.utf8EncodeChar c).length) :
    passes input test (index + offset) = false := by
  rcases Nat.lt_or_ge c.toNat 128 with ascii | beyond
  · rw [Text.utf8EncodeChar_of_lt ascii, List.length_singleton] at inside
    omega
  · obtain ⟨d, found, large⟩ := stands.charAt?_beyond beyond inside
    rw [passes, found]
    exact asciiOnly d large

theorem step (stands : Stands input index (c :: rest)) :
    Stands input (index + (String.utf8EncodeChar c).length) rest := by
  have behind : Stands input (index + (utf8 [c]).length) rest :=
    Stands.behind stands
  simpa using behind

theorem lt (stands : Stands input index (c :: rest)) :
    index < input.utf8ByteSize := by
  have positive := Text.length_utf8EncodeChar_pos c
  have next := stands.step.le
  omega

theorem succ (stands : Stands input index (c :: rest))
    (ascii : c.toNat < 128) : Stands input (index + 1) rest := by
  have step := stands.step
  rwa [Text.utf8EncodeChar_of_lt ascii, List.length_singleton] at step

theorem charAt?_eq_some_iff (stands : Stands input index rest)
    (ascii : c.toNat < 128) :
    charAt? input index = some c ↔ rest.head? = some c := by
  have any_iff (found : Option Char) :
      found.any (· = c) = true ↔ found = some c := by
    cases found <;> simp
  rw [← any_iff, ← any_iff, ← stands.passes_eq (asciiOnly_eq c ascii)]
  rfl

end Stands

/-! ### Searches -/

/-- The characters before the first suffix of a kind, and that suffix. -/
def splitWhere (holds : List Char → Bool) : List Char → List Char × List Char
  | [] => ([], [])
  | c :: rest =>
      if holds (c :: rest) then ([], c :: rest)
      else
        let (text, rest) := splitWhere holds rest
        (c :: text, rest)

theorem splitWhere_append (holds : List Char → Bool) (chars : List Char) :
    (splitWhere holds chars).1 ++ (splitWhere holds chars).2 = chars := by
  fun_induction splitWhere holds chars with
  | case1 => rfl
  | case2 => rfl
  | case3 c rest _ text tail equal induction =>
      rw [equal] at induction
      exact congrArg (c :: ·) induction

theorem splitWhere_holds {holds : List Char → Bool}
    (split : splitWhere holds chars = (text, c :: rest)) :
    holds (c :: rest) = true := by
  induction chars generalizing text with
  | nil => cases split
  | cons d chars induction =>
      rw [splitWhere] at split
      split at split
      next found =>
        cases split
        exact found
      next =>
        obtain ⟨-, sameRest⟩ := Prod.mk.inj split
        exact induction (Prod.ext rfl sameRest)

/-- A test of indices tells in front of a character what the characters from
there on are like, and fails inside a character that is passed over. -/
structure Sees (input : String) (test : Nat → Bool)
    (holds : List Char → Bool) : Prop where
  front : ∀ {index c rest}, Stands input index (c :: rest) →
    test index = holds (c :: rest)
  inside : ∀ {index c rest offset}, Stands input index (c :: rest) →
    holds (c :: rest) = false → 0 < offset →
    offset < (String.utf8EncodeChar c).length → test (index + offset) = false

theorem seek_add {test : Nat → Bool} {length : Nat}
    (within : index + length ≤ input.utf8ByteSize)
    (fails : ∀ offset < length, test (index + offset) = false) :
    seek input test index = seek input test (index + length) := by
  induction length with
  | zero => rfl
  | succ length induction =>
      have here := fails length (Nat.lt_succ_self length)
      rw [induction (by omega) fun offset less =>
        fails offset (Nat.lt_succ_of_lt less), seek, if_pos (by omega), here]
      rfl

/-- A search stops in front of the first suffix that it is for. -/
theorem Sees.seek {test : Nat → Bool} {holds : List Char → Bool}
    (sees : Sees input test holds) (stands : Stands input index chars) :
    Stands input (seek input test index) (splitWhere holds chars).2 := by
  induction chars generalizing index with
  | nil =>
      have whole := stands.add_length
      rw [Scanner.seek, if_neg (by simp at whole; omega)]
      exact stands
  | cons c rest induction =>
      rw [splitWhere]
      cases found : holds (c :: rest) with
      | true =>
          rw [Scanner.seek, if_pos stands.lt, sees.front stands, found]
          exact stands
      | false =>
          have step := stands.step
          rw [seek_add step.le ?_]
          · exact induction step
          · intro offset less
            rcases Nat.eq_zero_or_pos offset with rfl | positive
            · exact (sees.front stands).trans found
            · exact sees.inside stands found positive less

variable {test : Nat → Bool} {holds : List Char → Bool}

/-- A search that is for something has found it or stops at the end. -/
theorem Sees.first? (sees : Sees input test holds)
    (stands : Stands input index chars) :
    (∃ text c rest stop, splitWhere holds chars = (text, c :: rest) ∧
        Scanner.first? input test index = some stop ∧
        Stands input stop (c :: rest)) ∨
      splitWhere holds chars = (chars, []) ∧
        Scanner.first? input test index = none := by
  have reached := sees.seek stands
  have whole := splitWhere_append holds chars
  rw [Scanner.first?]
  generalize splitWhere holds chars = parts at reached whole
  obtain ⟨text, rest⟩ := parts
  cases rest with
  | nil =>
      refine .inr ⟨by simpa using whole, if_neg ?_⟩
      have atEnd := reached.add_length
      simp at atEnd
      omega
  | cons c rest =>
      exact .inl ⟨text, c, rest, _, rfl, if_pos reached.lt, reached⟩

theorem Sees.getD_first? (sees : Sees input test holds)
    (stands : Stands input index chars) :
    Stands input ((Scanner.first? input test index).getD input.utf8ByteSize)
      (splitWhere holds chars).2 := by
  rcases sees.first? stands with
    ⟨text, c, rest, stop, split, found, reached⟩ | ⟨split, none⟩
  · rw [split, found]
    exact reached
  · rw [split, none]
    exact stands.finish

theorem sees_passes {test : Char → Bool} (asciiOnly : AsciiOnly test) :
    Sees input (passes input test) (·.head?.any test) where
  front := fun stands => stands.passes_eq asciiOnly
  inside := fun stands _ => stands.passes_inside asciiOnly

/-- What passes a test is skipped character by character. -/
theorem sees_fails {test : Char → Bool} (asciiOnly : AsciiOnly test) :
    Sees input (fun index => !passes input test index)
      (!·.head?.any test) where
  front := fun stands => congrArg (!·) (stands.passes_eq asciiOnly)
  inside := by
    intro index c rest offset stands passed positive inside
    have ascii : c.toNat < 128 := by
      by_contra large
      have failed := asciiOnly c (Nat.not_lt.mp large)
      simp [failed] at passed
    rw [Text.utf8EncodeChar_of_lt ascii, List.length_singleton] at inside
    omega

theorem Sees.or {others : Nat → Bool} {kind : List Char → Bool}
    (sees : Sees input test holds) (also : Sees input others kind) :
    Sees input (fun index => test index || others index)
      (fun chars => holds chars || kind chars) where
  front := fun stands => by rw [sees.front stands, also.front stands]
  inside := by
    intro index c rest offset stands neither positive inside
    obtain ⟨one, other⟩ := Bool.or_eq_false_iff.mp neither
    rw [sees.inside stands one positive inside,
      also.inside stands other positive inside]
    rfl

/-! ### Words -/

/-- Words are compared by what `read` makes of their bytes. -/
private theorem startsBy_iff {α : Type} [BEq α] [LawfulBEq α]
    {read : UInt8 → α} (stands : Stands input index rest) (word : String) :
    startsBy input read word index = true ↔
      (utf8 word.toList).map read <+: (utf8 rest).map read := by
  have size := length_utf8_toList word
  have whole := stands.add_length
  rw [startsBy, stands.drop, bytes_eq, Bool.and_eq_true, beq_iff_eq,
    decide_eq_true_eq, List.map_take, List.prefix_iff_eq_take, List.length_map,
    size]
  constructor
  · exact fun both => both.2.symm
  · intro same
    have shorter := congrArg List.length same
    rw [List.length_take, List.length_map, List.length_map, size] at shorter
    exact ⟨by omega, same.symm⟩

theorem Stands.startsWith (stands : Stands input index rest) (word : String) :
    startsWith input word index = word.toList.isPrefixOf rest := by
  rw [Bool.eq_iff_iff, Scanner.startsWith, startsBy_iff stands, List.map_id,
    List.map_id, Text.utf8_prefix_iff, List.isPrefixOf_iff_prefix]

theorem Stands.startsWithIgnoringCase (stands : Stands input index rest)
    (word : String) :
    startsWithIgnoringCase input word index =
      Text.startsWithIgnoringCase word.toList rest := by
  rw [Bool.eq_iff_iff, Scanner.startsWithIgnoringCase, startsBy_iff stands,
    Text.map_lowerByte_prefix_iff, Text.startsWithIgnoringCase, beq_iff_eq,
    List.prefix_iff_eq_take, List.length_map, List.map_take]
  exact eq_comm

private theorem passes_of_startsWith {word : String} (ascii : c.toNat < 128)
    (first : word.toList.head? = some c)
    (starts : startsWith input word index = true) :
    passes input (· = c) index = true := by
  obtain ⟨chars, spelled⟩ := List.head?_eq_some_iff.mp first
  have wordBytes : bytes word = UInt8.ofNat c.toNat :: utf8 chars := by
    rw [bytes_eq, spelled, Text.utf8_cons, Text.utf8EncodeChar_of_lt ascii]
    rfl
  rw [Scanner.startsWith, startsBy, Bool.and_eq_true, beq_iff_eq, List.map_id,
    List.map_id, wordBytes] at starts
  obtain ⟨others, left⟩ :=
    List.take_prefix word.utf8ByteSize ((bytes input).drop index)
  rw [starts.2] at left
  have here : charAt? input index = some c := by
    rw [charAt?, ← List.head?_drop, ← left]
    exact congrArg some (Text.ofUInt8_ofNat ascii)
  rw [passes, here]
  exact decide_eq_true rfl

/-- A word that starts with an ASCII character starts inside none. -/
theorem sees_startsWith {word : String} (ascii : c.toNat < 128)
    (first : word.toList.head? = some c) :
    Sees input (startsWith input word) word.toList.isPrefixOf where
  front := fun stands => stands.startsWith word
  inside := by
    intro index d rest offset stands _ positive inside
    have fails := stands.passes_inside (asciiOnly_eq c ascii) positive inside
    by_contra starts
    have passes := passes_of_startsWith ascii first
      (Bool.not_eq_false _ ▸ starts)
    rw [fails] at passes
    contradiction

/-! ### What a lexer looks for -/

theorem splitWhere_of_head (test : Char → Bool)
    (same : ∀ c rest, holds (c :: rest) = test c) (chars : List Char) :
    splitWhere holds chars =
      (chars.takeWhile (!test ·), chars.dropWhile (!test ·)) := by
  induction chars with
  | nil => rfl
  | cons c rest induction =>
      rw [splitWhere, induction, same]
      cases passed : test c <;> simp [passed]

theorem splitAt?_eq (stop : Char) (chars : List Char) :
    splitAt? stop chars =
      match splitWhere (·.head?.any (· = stop)) chars with
      | (text, _ :: rest) => some (text, rest)
      | (_, []) => none := by
  induction chars with
  | nil => rfl
  | cons c rest induction =>
      rw [splitAt?, splitWhere, induction]
      by_cases same : c = stop
      · simp [same]
      · rcases splitWhere (·.head?.any (· = stop)) rest with ⟨text, _ | _⟩ <;>
          simp [same]

theorem splitAtEndTag_eq (tag chars : List Char) :
    splitAtEndTag tag chars = splitWhere (Html.startsEndTag tag) chars := by
  induction chars with
  | nil => rfl
  | cons c rest induction =>
      rw [splitAtEndTag, splitWhere, induction]

/-- Whether a comment ends here. -/
def endsComment (chars : List Char) : Bool :=
  "-->".toList.isPrefixOf chars || "--!>".toList.isPrefixOf chars

theorem isPrefixOf_eq_false {word : List Char}
    (absent : ∀ others, chars ≠ word ++ others) :
    word.isPrefixOf chars = false := by
  rw [Bool.eq_false_iff, ne_eq, List.isPrefixOf_iff_prefix]
  rintro ⟨others, equal⟩
  exact absent others equal.symm

theorem commentText_eq (chars : List Char) :
    commentText chars =
      ((splitWhere endsComment chars).1,
        (splitWhere endsComment chars).2.drop
          (if "-->".toList.isPrefixOf (splitWhere endsComment chars).2 then 3
            else 4)) := by
  fun_induction commentText chars with
  | case1 => rfl
  | case2 rest => rfl
  | case3 rest => rfl
  | case4 c rest notLong notShort text tail equal induction =>
      have inside : endsComment (c :: rest) = false := by
        rw [endsComment, Bool.or_eq_false_iff]
        constructor
        · refine isPrefixOf_eq_false fun others same => ?_
          have both : c = '-' ∧ rest = '-' :: '>' :: others := by
            simpa using same
          exact notLong others both.1 both.2
        · refine isPrefixOf_eq_false fun others same => ?_
          have both : c = '-' ∧ rest = '-' :: '!' :: '>' :: others := by
            simpa using same
          exact notShort others both.1 both.2
      rw [equal] at induction
      obtain ⟨rfl, rfl⟩ := Prod.mk.inj induction
      simp only [splitWhere, inside]
      rfl

end Scanner

end MarkupHarden.Html
