import MarkupHarden.Proofs.Html.Searching

/-!
# The scanner reads what the lexer reads

In front of the characters that the lexer reads next, the scanner reads the same
token and stops in front of the characters that the lexer leaves.  Both ends of
every slice on the way stand between characters and are in order.
-/

namespace MarkupHarden.Html

namespace Scanner

open Text (AsciiOnly asciiOnly_eq utf8)

variable {input : String} {index start stop : Nat}
  {c : Char} {chars text rest : List Char}

/-! ### Comments, doctypes and text -/

/-- Reading gives a result and stops in front of what the lexer leaves. -/
def Reads {α : Type} (input : String) (read : Checked (α × Nat))
    (expected : α × List Char) : Prop :=
  ∃ next, read = .ok (expected.1, next) ∧ Stands input next expected.2

theorem Stands.word {word : List Char} (stands : Stands input index rest)
    (starts : word.isPrefixOf rest = true) :
    Stands input (index + (utf8 word).length) (rest.drop word.length) := by
  obtain ⟨others, rfl⟩ := List.isPrefixOf_iff_prefix.mp starts
  rw [List.drop_left]
  exact stands.behind

private theorem sees_endsComment :
    Sees input (fun index => Scanner.startsWith input "-->" index ||
      Scanner.startsWith input "--!>" index) endsComment :=
  (sees_startsWith (c := '-') (by decide) (by decide)).or
    (sees_startsWith (c := '-') (by decide) (by decide))

theorem readComment_reads (stands : Stands input (index + 4) chars) :
    Reads input (readComment input index) (Html.readComment chars) := by
  have close := stands.startsWith ">"
  have dashClose := stands.startsWith "->"
  unfold Html.readComment
  split
  next rest =>
    rw [readComment, close, if_pos (by simp)]
    exact ⟨_, rfl, stands.succ (by decide)⟩
  next rest =>
    rw [readComment, close, if_neg (by simp), dashClose, if_pos (by simp)]
    exact ⟨_, rfl, (stands.succ (by decide)).succ (by decide)⟩
  next notClose notDashClose =>
    have noClose : ">".toList.isPrefixOf chars = false :=
      isPrefixOf_eq_false fun others same =>
        notClose others (by simpa using same)
    have noDashClose : "->".toList.isPrefixOf chars = false :=
      isPrefixOf_eq_false fun others same =>
        notDashClose others (by simpa using same)
    have whole := splitWhere_append endsComment chars
    rw [readComment, close, dashClose, noClose, noDashClose, commentText_eq]
    rcases sees_endsComment.first? stands with
      ⟨text, c, rest, stop, split, found, reached⟩ | ⟨split, none⟩
    · have ends := splitWhere_holds split
      rw [split] at whole ⊢
      simp only [Bool.false_eq_true, if_false, found,
        stands.slice reached whole, reached.startsWith]
      refine ⟨_, rfl, ?_⟩
      split
      next long => exact reached.word long
      next notLong =>
        rw [endsComment, Bool.eq_false_iff.mpr notLong, Bool.false_or] at ends
        exact reached.word ends
    · rw [split]
      simp only [Bool.false_eq_true, if_false, none, Nat.min_eq_left stands.le,
        stands.slice stands.finish (List.append_nil chars)]
      exact ⟨_, rfl, stands.finish⟩

theorem find?_cases (ascii : c.toNat < 128)
    (stands : Stands input index chars) :
    (∃ text rest stop, splitAt? c chars = some (text, rest) ∧
        text ++ c :: rest = chars ∧ find? input c index = some stop ∧
        Stands input stop (c :: rest)) ∨
      splitAt? c chars = none ∧ find? input c index = none := by
  have whole := splitWhere_append (·.head?.any (· = c)) chars
  rw [splitAt?_eq]
  rcases (sees_passes (asciiOnly_eq c ascii)).first? stands with
    ⟨text, d, rest, stop, split, found, reached⟩ | ⟨split, none⟩
  · have same : d = c := by simpa using splitWhere_holds split
    subst same
    rw [split] at whole ⊢
    exact .inl ⟨text, rest, stop, rfl, whole, found, reached⟩
  · rw [split]
    exact .inr ⟨rfl, none⟩

theorem readBogusComment_reads (stands : Stands input index chars) :
    Reads input (readBogusComment input index)
      (Html.readBogusComment chars) := by
  unfold readBogusComment Html.readBogusComment
  rw [Nat.min_eq_left stands.le]
  rcases find?_cases (c := '>') (by decide) stands with
    ⟨text, rest, stop, split, whole, found, reached⟩ | ⟨split, none⟩
  · simp only [split, found, stands.slice reached whole]
    exact ⟨_, rfl, reached.succ (by decide)⟩
  · simp only [split, none, stands.slice stands.finish (List.append_nil chars)]
    exact ⟨_, rfl, stands.finish⟩

/-- The characters up to the first one that passes a test. -/
theorem Stands.seek {test : Char → Bool} (stands : Stands input index chars)
    (asciiOnly : AsciiOnly test) :
    Stands input (Scanner.seek input (passes input test) index)
        (chars.dropWhile (!test ·)) ∧
      Scanner.slice input index (Scanner.seek input (passes input test) index) =
        .ok (chars.takeWhile (!test ·)) := by
  have reached := (sees_passes asciiOnly).seek stands
  rw [splitWhere_of_head _ fun _ _ => rfl] at reached
  exact ⟨reached,
    stands.slice reached List.takeWhile_append_dropWhile⟩

theorem readText_reads (lead : String) (stands : Stands input index chars) :
    Reads input (readText input lead index)
      (.text (lead ++ (Html.readText chars).1), (Html.readText chars).2) := by
  have reached :=
    (sees_passes (asciiOnly_eq '<' (by decide))).getD_first? stands
  rw [splitWhere_of_head _ fun _ _ => rfl] at reached
  rw [readText, find?, stands.slice reached List.takeWhile_append_dropWhile,
    Html.readText]
  simp only [ne_eq, decide_not]
  exact ⟨_, rfl, reached⟩

private theorem splitAt?_append_of_notMem {front : List Char}
    (absent : c ∉ front) (chars : List Char) :
    splitAt? c (front ++ chars) =
      (splitAt? c chars).map fun parts => (front ++ parts.1, parts.2) := by
  induction front with
  | nil => simp
  | cons d front induction =>
      rw [List.mem_cons, not_or] at absent
      rw [List.cons_append, splitAt?, if_neg (Ne.symm absent.1),
        induction absent.2, Option.map_map]
      rfl

/-- A keyword takes as many bytes in any case. -/
theorem Stands.keyword (stands : Stands input index chars) {word : String}
    (starts : Text.startsWithIgnoringCase word.toList chars = true) :
    Stands input (index + word.utf8ByteSize)
      (chars.drop word.toList.length) := by
  rw [Text.startsWithIgnoringCase, beq_iff_eq] at starts
  have length : (utf8 (chars.take word.toList.length)).length =
      word.utf8ByteSize := by
    rw [← Text.length_utf8_toLower, starts, Text.length_utf8_toLower,
      length_utf8_toList]
  rw [← List.take_append_drop word.toList.length chars] at stands
  exact length ▸ stands.behind

private theorem notMem_keyword {word : String}
    (starts : Text.startsWithIgnoringCase word.toList chars = true)
    (absent : c.toLower ∉ word.toList.map Char.toLower) :
    c ∉ chars.take word.toList.length := by
  rw [Text.startsWithIgnoringCase, beq_iff_eq] at starts
  intro member
  exact absent (starts ▸ List.mem_map_of_mem member)

theorem readDoctype_reads (stands : Stands input index ('<' :: '!' :: chars))
    (starts : Text.startsWithIgnoringCase "doctype".toList chars = true) :
    Reads input (readDoctype input index)
      (Html.readDoctype (chars.drop "doctype".toList.length)) := by
  have behind : Stands input (index + 9)
      (chars.drop "doctype".toList.length) :=
    ((stands.succ (by decide)).succ (by decide)).keyword starts
  have absent := notMem_keyword (c := '>') starts (by decide)
  have whole : ('<' :: '!' :: chars.take "doctype".toList.length) ++
      chars.drop "doctype".toList.length = '<' :: '!' :: chars := by
    rw [List.cons_append, List.cons_append, List.take_append_drop]
  generalize chars.take "doctype".toList.length = keyword at absent whole
  generalize chars.drop "doctype".toList.length = rest at behind whole ⊢
  have noClose : '>' ∉ '<' :: '!' :: keyword := by
    simpa using absent
  have splits := splitAt?_append_of_notMem noClose rest
  rw [whole] at splits
  unfold readDoctype Html.readDoctype
  rcases find?_cases (c := '>') (by decide) stands with
    ⟨text, others, stop, split, parts, found, reached⟩ | ⟨split, none⟩
  · obtain ⟨⟨name, left⟩, nameSplit, equal⟩ :=
      Option.map_eq_some_iff.mp (splits.symm.trans split)
    cases equal
    have nameParts : name ++ '>' :: left = rest := by
      rw [← whole, List.append_assoc] at parts
      exact List.append_cancel_left parts
    have ordered : index + 9 ≤ stop := by
      have stop_eq := (nameParts ▸ behind).stop_eq reached
      omega
    have inside := reached.lt
    simp only [found, nameSplit, Option.getD_some, Nat.min_eq_left ordered,
      behind.slice reached nameParts, Nat.min_eq_left inside]
    exact ⟨_, rfl, reached.succ (by decide)⟩
  · have nameSplit := Option.map_eq_none_iff.mp (splits.symm.trans split)
    simp only [none, nameSplit, Option.getD_none, Nat.min_eq_left behind.le,
      behind.slice stands.finish (List.append_nil rest),
      Nat.min_eq_right (Nat.le_succ _)]
    exact ⟨_, rfl, stands.finish⟩

/-! ### Tags -/

/-- Results of the scanner and of the lexer that agree. -/
inductive Follows {α : Type} (input : String) :
    Option (α × Nat) → Option (α × List Char) → Prop where
  | none : Follows input none none
  | some {value : α} {next : Nat} {rest : List Char} :
      Stands input next rest →
      Follows input (some (value, next)) (some (value, rest))

/-- Reading may come to nothing, like that of the lexer. -/
def MayRead {α : Type} (input : String) (read : Checked (Option (α × Nat)))
    (expected : Option (α × List Char)) : Prop :=
  ∃ found, read = .ok found ∧ Follows input found expected

theorem Follows.map {α β : Type} (change : α → β) {found : Option (α × Nat)}
    {expected : Option (α × List Char)}
    (follows : Follows input found expected) :
    Follows input (found.map fun part => (change part.1, part.2))
      (expected.map fun part => (change part.1, part.2)) := by
  cases follows with
  | none => exact .none
  | some stands => exact .some stands

private theorem skipToTagEnd?_eq (quote : Option Char) (index : Nat) :
    skipToTagEnd? input quote index =
      (charAt? input index).bind fun c =>
        match quote with
        | some mark =>
            skipToTagEnd? input (if c = mark then none else some mark)
              (index + 1)
        | none =>
            if c = '"' || c = '\x27' then
              skipToTagEnd? input (some c) (index + 1)
            else if c = '>' then some (index + 1)
            else skipToTagEnd? input none (index + 1) := by
  rw [skipToTagEnd?]
  split
  next found =>
    rw [found]
    rfl
  next c found =>
    dsimp only
    rw [found]
    rfl

/-- Bytes beyond ASCII neither open nor close a quotation and end no tag. -/
private theorem skipToTagEnd?_add {quote : Option Char} {length : Nat}
    (ascii : ∀ mark ∈ quote, mark.toNat < 128)
    (beyond : ∀ offset < length,
      ∃ d, charAt? input (index + offset) = some d ∧ 128 ≤ d.toNat) :
    skipToTagEnd? input quote index =
      skipToTagEnd? input quote (index + length) := by
  induction length with
  | zero => rfl
  | succ length induction =>
      obtain ⟨d, here, large⟩ := beyond length (Nat.lt_succ_self length)
      rw [induction fun offset less => beyond offset (Nat.lt_succ_of_lt less),
        skipToTagEnd?_eq, here, Option.bind_some]
      have other (c : Char) (ascii : c.toNat < 128) : d ≠ c := by
        rintro rfl
        omega
      cases quote with
      | some mark =>
          dsimp only
          rw [if_neg (other mark (ascii mark rfl))]
          rfl
      | none =>
          simp only [other '"' (by decide), other '\x27' (by decide),
            other '>' (by decide), decide_false, Bool.or_self,
            Bool.false_eq_true, if_false]
          rfl

private theorem skipEndTag?_cons_of_ne (notClose : c ≠ '>') :
    skipEndTag? none (c :: rest) =
      skipEndTag? (if c = '"' || c = '\x27' then some c else none) rest := by
  rw [skipEndTag?]
  exact notClose

theorem skipToTagEnd?_follows {α : Type} (value : α) {quote : Option Char}
    (ascii : ∀ mark ∈ quote, mark.toNat < 128)
    (stands : Stands input index chars) :
    Follows input
      ((skipToTagEnd? input quote index).map fun next => (value, next))
      ((skipEndTag? quote chars).map fun rest => (value, rest)) := by
  induction chars generalizing index quote with
  | nil =>
      rw [skipToTagEnd?_eq, stands.charAt?_nil]
      cases quote <;> exact .none
  | cons c rest induction =>
      rcases Nat.lt_or_ge c.toNat 128 with small | beyond
      · have step := stands.succ small
        rw [skipToTagEnd?_eq, stands.charAt?_ascii small, Option.bind_some]
        cases quote with
        | some mark =>
            rw [skipEndTag?]
            refine induction ?_ step
            intro other member
            split at member
            · contradiction
            · exact ascii other member
        | none =>
            dsimp only
            by_cases close : c = '>'
            · subst close
              exact .some step
            · rw [skipEndTag?_cons_of_ne close]
              by_cases isQuote : (c = '"' || c = '\x27') = true
              · rw [if_pos isQuote, if_pos isQuote]
                exact induction (by simpa using small) step
              · rw [if_neg isQuote, if_neg isQuote, if_neg close]
                exact induction (by simp) step
      · rw [skipToTagEnd?_add ascii fun offset less =>
          stands.charAt?_beyond beyond less]
        have other (d : Char) (ascii : d.toNat < 128) : c ≠ d := by
          rintro rfl
          omega
        have same : skipEndTag? quote (c :: rest) = skipEndTag? quote rest := by
          cases quote with
          | some mark => rw [skipEndTag?, if_neg (other mark (ascii mark rfl))]
          | none =>
              rw [skipEndTag?_cons_of_ne (other '>' (by decide)), if_neg]
              simp [other '"' (by decide), other '\x27' (by decide)]
        rw [same]
        exact induction ascii stands.step

theorem readEndTag?_reads (stands : Stands input (index + 2) chars) :
    MayRead input (readEndTag? input index) (Html.readEndTag? chars) := by
  obtain ⟨reached, -⟩ := stands.seek asciiOnly_endsTagName
  rw [readEndTag?, stands.byteSlice reached List.takeWhile_append_dropWhile]
  refine ⟨_, rfl, ?_⟩
  rw [Text.decodeUtf8_utf8]
  exact skipToTagEnd?_follows _ (by simp) reached

theorem readValue?_reads (stands : Stands input index chars) :
    MayRead input (readValue? input index) (Html.readValue? chars) := by
  cases chars with
  | nil =>
      rw [readValue?, stands.charAt?_nil]
      exact ⟨_, rfl, .none⟩
  | cons c rest =>
      obtain ⟨d, here, alike⟩ := stands.charAt?_cons
      rw [readValue?, here, Html.readValue?]
      dsimp only
      rw [alike _ ((asciiOnly_eq '"' (by decide)).or
        (asciiOnly_eq '\x27' (by decide)))]
      by_cases isQuote : (c = '"' || c = '\x27') = true
      · have ascii : c.toNat < 128 := by
          rcases (Bool.or_eq_true _ _).mp isQuote with isQuote | isQuote <;>
            rw [of_decide_eq_true isQuote] <;> decide
        have sameChar : d = c :=
          Option.some_inj.mp (here.symm.trans (stands.charAt?_ascii ascii))
        have behind := stands.succ ascii
        rw [if_pos isQuote, if_pos isQuote, sameChar]
        rcases find?_cases ascii behind with
          ⟨text, left, stop, split, whole, found, reached⟩ | ⟨split, none⟩
        · simp only [split, found, behind.slice reached whole]
          exact ⟨_, rfl, .some (reached.succ ascii)⟩
        · simp only [split, none]
          exact ⟨_, rfl, .none⟩
      · obtain ⟨reached, text⟩ := stands.seek asciiOnly_endsBareValue
        rw [if_neg isQuote, if_neg isQuote, text]
        exact ⟨_, rfl, .some reached⟩

theorem Stands.skipSpaces (stands : Stands input index chars) :
    Stands input (skipSpaces input index) (Html.skipSpaces chars) := by
  have reached := (sees_fails Text.asciiOnly_isSpace).seek stands
  rw [splitWhere_of_head (!Text.isSpace ·) fun _ _ => rfl] at reached
  simp only [Bool.not_not] at reached
  exact reached

/-- A search from inside a character is one from behind it. -/
private theorem seek_succ {test : Char → Bool} (asciiOnly : AsciiOnly test)
    (stands : Stands input index (c :: rest)) :
    seek input (passes input test) (index + 1) =
      seek input (passes input test)
        (index + (String.utf8EncodeChar c).length) := by
  have positive := Text.length_utf8EncodeChar_pos c
  have next := stands.step.le
  have within : index + 1 + ((String.utf8EncodeChar c).length - 1) ≤
      input.utf8ByteSize := by omega
  rw [seek_add within ?_]
  · congr 1
    omega
  · intro offset less
    rw [Nat.add_assoc]
    exact stands.passes_inside asciiOnly (by omega) (by omega)

theorem readAttribute?_reads (stands : Stands input index (c :: rest)) :
    MayRead input (readAttribute? input index)
      (Html.readAttribute? c rest) := by
  obtain ⟨reached, -⟩ := stands.step.seek asciiOnly_endsAttributeName
  rw [← seek_succ asciiOnly_endsAttributeName stands] at reached
  have name : slice input index
      (seek input (passes input endsAttributeName) (index + 1)) =
        .ok (c :: rest.takeWhile (!endsAttributeName ·)) :=
    stands.slice reached
      (congrArg (c :: ·) List.takeWhile_append_dropWhile)
  have behind := reached.skipSpaces
  have equals := behind.charAt?_eq_some_iff (c := '=') (by decide)
  rw [readAttribute?, name, Html.readAttribute?]
  split
  next left begins =>
    rw [begins] at behind equals
    obtain ⟨found, read, follows⟩ :=
      readValue?_reads (behind.succ (by decide)).skipSpaces
    refine ⟨_, ?_, follows.map fun value => (_, value)⟩
    simp only [bind, Except.bind, equals.mpr rfl, if_true, read]
  next noEquals =>
    have notEquals : ¬charAt? input (skipSpaces input
        (seek input (passes input endsAttributeName) (index + 1))) =
          some '=' := by
      intro isEquals
      obtain ⟨left, begins⟩ := List.head?_eq_some_iff.mp (equals.mp isEquals)
      exact noEquals left begins
    refine ⟨_, ?_, .some behind⟩
    simp only [bind, Except.bind, notEquals, if_false]

private theorem readAttributes?_eq (attributes : TagAttributes)
    (index : Nat) :
    readAttributes? input attributes index =
      match charAt? input (skipSpaces input index) with
      | none => .ok none
      | some c =>
          if c = '>' then
            .ok (some ((attributes, false), skipSpaces input index + 1))
          else if c = '/' then
            if charAt? input (skipSpaces input index + 1) = some '>' then
              .ok (some ((attributes, true), skipSpaces input index + 2))
            else readAttributes? input attributes (skipSpaces input index + 1)
          else
            readAttribute? input (skipSpaces input index) >>= fun read =>
              match read with
              | none => .ok none
              | some (pair, next) =>
                  readAttributes? input
                    (if attributes.any (·.1 = pair.1) then attributes
                      else attributes ++ [pair]) next := by
  rw [readAttributes?]
  split
  next found =>
    rw [found]
  next c found =>
    dsimp only
    rw [found]
    dsimp only
    split
    · rfl
    · split
      · rfl
      · split
        next crash read => rw [read]; rfl
        next read => rw [read]; rfl
        next pair next read =>
          rw [read]
          dsimp only [bind, Except.bind]
          split <;> rfl

/-- Behind spaces an attribute is read, and the others follow. -/
private theorem readAttributes?_attribute (attributes : TagAttributes)
    {expected : Option ((String × String) × List Char)}
    (stands : Stands input index (c :: rest))
    (spaces : skipSpaces input start = index)
    (notClose : c ≠ '>') (notSlash : c ≠ '/')
    (read : Html.readAttribute? c rest = expected) :
    (expected = none ∧ readAttributes? input attributes start = .ok none) ∨
      ∃ pair left next, expected = some (pair, left) ∧
        Stands input next left ∧
        readAttributes? input attributes start =
          readAttributes? input
            (if attributes.any (·.1 = pair.1) then attributes
              else attributes ++ [pair]) next := by
  obtain ⟨d, here, alike⟩ := stands.charAt?_cons
  obtain ⟨found, reading, follows⟩ := readAttribute?_reads stands
  rw [read] at follows
  rw [readAttributes?_eq, spaces, here]
  dsimp only
  rw [if_neg (mt (alike.eq_iff (by decide)).mp notClose),
    if_neg (mt (alike.eq_iff (by decide)).mp notSlash), reading]
  cases follows with
  | none => exact .inl ⟨rfl, rfl⟩
  | some behind => exact .inr ⟨_, _, _, rfl, behind, rfl⟩

theorem readAttributes?_reads (attributes : TagAttributes)
    (stands : Stands input index chars) :
    MayRead input (readAttributes? input attributes index)
      (Html.readAttributes? attributes chars) := by
  fun_induction Html.readAttributes? attributes chars generalizing index with
  | case1 attributes chars spaces =>
      have behind := spaces ▸ stands.skipSpaces
      rw [readAttributes?_eq, behind.charAt?_nil]
      exact ⟨_, rfl, .none⟩
  | case2 attributes chars rest spaces =>
      have behind := spaces ▸ stands.skipSpaces
      rw [readAttributes?_eq, behind.charAt?_ascii (by decide)]
      exact ⟨_, rfl, .some (behind.succ (by decide))⟩
  | case3 attributes chars rest spaces =>
      have behind := spaces ▸ stands.skipSpaces
      have slash := behind.succ (by decide)
      rw [readAttributes?_eq, behind.charAt?_ascii (by decide)]
      dsimp only
      rw [if_neg (by decide), if_pos rfl,
        if_pos (slash.charAt?_ascii (by decide))]
      exact ⟨_, rfl, .some (slash.succ (by decide))⟩
  | case4 attributes chars rest notClose spaces shorter induction =>
      have behind := spaces ▸ stands.skipSpaces
      have slash := behind.succ (by decide)
      have close := slash.charAt?_eq_some_iff (c := '>') (by decide)
      rw [readAttributes?_eq, behind.charAt?_ascii (by decide)]
      dsimp only
      rw [if_neg (by decide), if_pos rfl, if_neg]
      · exact induction slash
      · intro isClose
        obtain ⟨left, begins⟩ := List.head?_eq_some_iff.mp (close.mp isClose)
        exact notClose left begins
  | case5 attributes chars c rest notClose notBoth notSlash spaces read =>
      have behind := spaces ▸ stands.skipSpaces
      rcases readAttributes?_attribute attributes behind rfl notClose
        notSlash read with ⟨-, none⟩ | ⟨_, _, _, impossible, _⟩
      · exact ⟨_, none, .none⟩
      · contradiction
  | case6 attributes chars c rest notClose notBoth notSlash spaces pair tail
      read _ _ known induction =>
      have behind := spaces ▸ stands.skipSpaces
      rcases readAttributes?_attribute attributes behind rfl notClose
        notSlash read with
        ⟨impossible, -⟩ | ⟨_, _, _, equal, left, step⟩
      · contradiction
      · cases equal
        rw [step, if_pos known]
        exact induction left
  | case7 attributes chars c rest notClose notBoth notSlash spaces pair tail
      read _ _ new induction =>
      have behind := spaces ▸ stands.skipSpaces
      rcases readAttributes?_attribute attributes behind rfl notClose
        notSlash read with
        ⟨impossible, -⟩ | ⟨_, _, _, equal, left, step⟩
      · contradiction
      · cases equal
        rw [step, if_neg new]
        exact induction left

theorem readStartTag?_reads (stands : Stands input (index + 1) chars) :
    MayRead input (readStartTag? input index) (Html.readStartTag? chars) := by
  obtain ⟨reached, name⟩ := stands.seek asciiOnly_endsTagName
  obtain ⟨found, read, follows⟩ :=
    readAttributes?_reads [] reached
  have mapped := follows.map fun tag => Token.startTag
    (folded (chars.takeWhile (!endsTagName ·))) tag.1 tag.2
  rw [readStartTag?, name]
  simp only [bind, Except.bind, read]
  exact ⟨_, rfl, mapped⟩

/-! ### Tokens -/

/-- A token and what is left; without a token nothing is. -/
def outcome : Option (Token × List Char) → Option Token × List Char
  | some (token, rest) => (some token, rest)
  | none => (none, [])

theorem Reads.always {read : Checked (Token × Nat)}
    {expected : Token × List Char} (reads : Reads input read expected) :
    Reads input (always read) (outcome (some expected)) := by
  obtain ⟨next, rfl, stands⟩ := reads
  exact ⟨next, rfl, stands⟩

theorem MayRead.whole {read : Checked (Option (Token × Nat))}
    {expected : Option (Token × List Char)}
    (mayRead : MayRead input read expected)
    (stands : Stands input index chars) :
    Reads input (whole input read) (outcome expected) := by
  obtain ⟨found, rfl, follows⟩ := mayRead
  cases follows with
  | none => exact ⟨_, rfl, stands.finish⟩
  | some behind => exact ⟨_, rfl, behind⟩

private theorem content_eq (index : Nat) :
    content input index =
      match charAt? input index with
      | none => .ok (none, index)
      | some c =>
          if c ≠ '<' then always (readText input "" index)
          else if startsWith input "<!" index then
            always (readDeclaration input index)
          else if startsWith input "<?" index then
            always (readBogusComment input (index + 1))
          else if startsWith input "</" index then
            match charAt? input (index + 2) with
            | none => .ok (some (.text "</"), input.utf8ByteSize)
            | some c =>
                if c.isAlpha then whole input (readEndTag? input index)
                else if c = '>' then content input (index + 3)
                else always (readBogusComment input (index + 2))
          else if passes input Char.isAlpha (index + 1) then
            whole input (readStartTag? input index)
          else always (readText input "<" (index + 1)) := by
  rw [content]
  split
  next found => rw [found]
  next c found =>
    dsimp only
    exact found ▸ rfl

theorem readDeclaration_reads
    (stands : Stands input index ('<' :: '!' :: chars)) :
    Reads input (readDeclaration input index)
      (Html.readDeclaration chars) := by
  have behind : Stands input (index + 2) chars :=
    (stands.succ (by decide)).succ (by decide)
  unfold Html.readDeclaration
  split
  next rest =>
    rw [readDeclaration, stands.startsWith, if_pos (by simp)]
    exact readComment_reads ((behind.succ (by decide)).succ (by decide))
  next notComment =>
    have noDashes : "<!--".toList.isPrefixOf ('<' :: '!' :: chars) = false :=
      isPrefixOf_eq_false fun others same =>
        notComment others (by simpa using same)
    rw [readDeclaration, stands.startsWith, noDashes,
      if_neg Bool.false_ne_true, behind.startsWithIgnoringCase]
    dsimp only
    split
    next keyword => exact readDoctype_reads stands keyword
    next => exact readBogusComment_reads behind

/-- Behind `</` the next character decides. -/
private theorem content_endTag
    (stands : Stands input index ('<' :: '/' :: chars)) :
    content input index =
      match charAt? input (index + 2) with
      | none => .ok (some (.text "</"), input.utf8ByteSize)
      | some c =>
          if c.isAlpha then whole input (readEndTag? input index)
          else if c = '>' then content input (index + 3)
          else always (readBogusComment input (index + 2)) := by
  rw [content_eq, stands.charAt?_ascii (by decide)]
  dsimp only
  rw [if_neg (not_not.mpr rfl), stands.startsWith, if_neg (by simp),
    stands.startsWith, if_neg (by simp), stands.startsWith, if_pos (by simp)]

/-- Any other `<` starts a tag or text. -/
private theorem content_other (stands : Stands input index ('<' :: chars))
    (noBang : ∀ rest, chars = '!' :: rest → False)
    (noQuestion : ∀ rest, chars = '?' :: rest → False)
    (noSlash : chars = ['/'] → False)
    (noSlashes : ∀ c rest, chars = '/' :: c :: rest → False) :
    content input index =
      if passes input Char.isAlpha (index + 1) then
        whole input (readStartTag? input index)
      else always (readText input "<" (index + 1)) := by
  have noWord (word : String) (c : Char) (spelled : word.toList = ['<', c])
      (absent : ∀ rest, chars = c :: rest → False) :
      ¬startsWith input word index = true := by
    rw [stands.startsWith, spelled, Bool.not_eq_true]
    exact isPrefixOf_eq_false fun others same =>
      absent others (List.cons.inj same).2
  have noSlash : ∀ rest, chars = '/' :: rest → False
    | [], same => noSlash same
    | c :: rest, same => noSlashes c rest same
  rw [content_eq, stands.charAt?_ascii (by decide)]
  dsimp only
  rw [if_neg (not_not.mpr rfl), if_neg (noWord "<!" '!' (by simp) noBang),
    if_neg (noWord "<?" '?' (by simp) noQuestion),
    if_neg (noWord "</" '/' (by simp) noSlash)]

theorem content_reads (stands : Stands input index chars) :
    Reads input (content input index) (outcome (readContent? chars)) := by
  fun_induction readContent? chars generalizing index with
  | case1 =>
      rw [content_eq, stands.charAt?_nil]
      exact ⟨_, rfl, stands⟩
  | case2 tail =>
      rw [content_eq, stands.charAt?_ascii (by decide)]
      dsimp only
      rw [if_neg (not_not.mpr rfl), stands.startsWith, if_pos (by simp)]
      exact (readDeclaration_reads stands).always
  | case3 tail =>
      rw [content_eq, stands.charAt?_ascii (by decide)]
      dsimp only
      rw [if_neg (not_not.mpr rfl), stands.startsWith, if_neg (by simp),
        stands.startsWith, if_pos (by simp)]
      exact (readBogusComment_reads (stands.succ (by decide))).always
  | case4 =>
      have behind := (stands.succ (by decide)).succ (by decide)
      rw [content_endTag stands, behind.charAt?_nil]
      exact ⟨_, rfl, stands.finish⟩
  | case5 rest induction =>
      have behind := (stands.succ (by decide)).succ (by decide)
      rw [content_endTag stands, behind.charAt?_ascii (by decide)]
      dsimp only
      rw [if_neg (by decide), if_pos rfl]
      exact induction (behind.succ (by decide))
  | case6 c rest notClose alpha =>
      have behind := (stands.succ (by decide)).succ (by decide)
      obtain ⟨d, found, alike⟩ := behind.charAt?_cons
      rw [content_endTag stands, found]
      dsimp only
      rw [alike _ Text.asciiOnly_isAlpha, if_pos alpha]
      exact (readEndTag?_reads behind).whole behind
  | case7 c rest notClose notAlpha =>
      have behind := (stands.succ (by decide)).succ (by decide)
      obtain ⟨d, found, alike⟩ := behind.charAt?_cons
      rw [content_endTag stands, found]
      dsimp only
      rw [alike _ Text.asciiOnly_isAlpha, if_neg notAlpha,
        if_neg (mt (alike.eq_iff (by decide)).mp notClose)]
      exact (readBogusComment_reads behind).always
  | case8 rest noBang noQuestion noSlash noClose noSlashes alpha =>
      have behind := stands.succ (by decide)
      rw [content_other stands noBang noQuestion noSlash noSlashes,
        behind.passes_eq Text.asciiOnly_isAlpha, if_pos alpha]
      exact (readStartTag?_reads behind).whole behind
  | case9 rest noBang noQuestion noSlash noClose noSlashes notAlpha text left
      read =>
      have behind := stands.succ (by decide)
      have reads := (readText_reads "<" behind).always
      rw [read] at reads
      rw [content_other stands noBang noQuestion noSlash noSlashes,
        behind.passes_eq Text.asciiOnly_isAlpha, if_neg notAlpha]
      exact reads
  | case10 chars nonempty _ _ _ _ _ noTag text left read =>
      have reads := (readText_reads "" stands).always
      rw [read, String.empty_append] at reads
      obtain ⟨c, rest, rfl⟩ := List.exists_cons_of_ne_nil nonempty
      have other : c ≠ '<' := fun same => noTag rest (same ▸ rfl)
      obtain ⟨d, found, alike⟩ := stands.charAt?_cons
      rw [content_eq, found]
      dsimp only
      rw [if_pos (mt (alike.eq_iff (by decide)).mp other)]
      exact reads

/-! ### Text modes -/

theorem Stands.all_eq {test : Char → Bool} (asciiOnly : AsciiOnly test)
    (stands : Stands input index rest) :
    (charAt? input index).all test = rest.head?.all test := by
  cases rest with
  | nil => rw [stands.charAt?_nil]; rfl
  | cons c rest =>
      obtain ⟨d, found, alike⟩ := stands.charAt?_cons
      rw [found]
      exact alike test asciiOnly

private theorem startsEndTag_eq (tag : String)
    (stands : Stands input index ('<' :: '/' :: rest)) :
    startsEndTag input tag index =
      Html.startsEndTag tag.toList ('<' :: '/' :: rest) := by
  have slash := stands.succ (by decide)
  have behind : Stands input (index + 2) rest := slash.succ (by decide)
  rw [startsEndTag, stands.charAt?_ascii (by decide),
    slash.charAt?_ascii (by decide), behind.startsWithIgnoringCase,
    Html.startsEndTag]
  cases starts : Text.startsWithIgnoringCase tag.toList rest with
  | false => simp
  | true =>
      have boundary := behind.keyword starts
      rw [boundary.all_eq asciiOnly_endsTagName]
      simp

private theorem opens_of_startsEndTag {tag : String}
    (starts : startsEndTag input tag index = true) :
    charAt? input index = some '<' ∧ charAt? input (index + 1) = some '/' := by
  simp only [startsEndTag, Bool.and_eq_true, decide_eq_true_eq] at starts
  exact starts.1.1

theorem sees_startsEndTag (tag : String) :
    Sees input (startsEndTag input tag) (Html.startsEndTag tag.toList) where
  front := by
    intro index c rest stands
    unfold Html.startsEndTag
    split
    next rest equal =>
      cases equal
      exact startsEndTag_eq tag stands
    next notTag =>
      rw [Bool.eq_false_iff]
      intro starts
      obtain ⟨opens, slash⟩ := opens_of_startsEndTag starts
      cases (stands.charAt?_eq_some_iff (by decide)).mp opens
      have behind := stands.succ (by decide)
      obtain ⟨others, rfl⟩ := List.head?_eq_some_iff.mp
        ((behind.charAt?_eq_some_iff (by decide)).mp slash)
      exact notTag others rfl
  inside := by
    intro index c rest offset stands _ positive inside
    rw [Bool.eq_false_iff]
    intro starts
    have opens := stands.passes_inside (asciiOnly_eq '<' (by decide))
      positive inside
    rw [passes, (opens_of_startsEndTag starts).1] at opens
    contradiction

theorem endOf_stands (switch : TextSwitch)
    (stands : Stands input index chars) :
    Stands input (endOf input switch index) (switch.split chars).2 := by
  rw [endOf, TextSwitch.split]
  cases switch.mode with
  | endless => exact stands.finish
  | _ =>
      rw [splitAtEndTag_eq]
      exact (sees_startsEndTag switch.tag).getD_first? stands

end Scanner

end MarkupHarden.Html
