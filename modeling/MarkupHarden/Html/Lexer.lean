import MarkupHarden.Html.CharacterReference
import MarkupHarden.Html.Token
import MarkupHarden.Text.Ascii
import MarkupHarden.Text.Blank

/-!
# Reading tokens

A lexer holds the markup that is still to be read.  Reading never fails: a
construct that is cut off by the end of the markup is dropped or read as text.
The main statement is `Lexer.next_length`, which says that every token takes
at least one character.
-/

namespace MarkupHarden.Html

/-- Whether a character ends the name of a tag. -/
def endsTagName (c : Char) : Bool :=
  Text.isSpace c || c = '/' || c = '>'

/-- Whether a character ends the name of an attribute. -/
def endsAttributeName (c : Char) : Bool :=
  Text.isSpace c || c = '/' || c = '>' || c = '='

/-- Whether a character ends an attribute value without quotes. -/
def endsBareValue (c : Char) : Bool :=
  Text.isSpace c || c = '>'

def skipSpaces (chars : List Char) : List Char :=
  chars.dropWhile Text.isSpace

/-- The characters up to the first `stop` and those behind it. -/
def splitAt? (stop : Char) : List Char → Option (List Char × List Char)
  | [] => none
  | c :: rest =>
      if c = stop then some ([], rest)
      else (splitAt? stop rest).map fun parts => (c :: parts.1, parts.2)

/-- Text with its character references decoded. -/
def decoded (chars : List Char) : String :=
  String.ofList (CharacterReference.decode chars)

/-- A name in lower case. -/
def folded (chars : List Char) : String :=
  Text.lower (String.ofList chars)

/-! ### Comments and doctypes -/

/-- Comment text up to `-->` or `--!>`, or up to the end. -/
def commentText : List Char → List Char × List Char
  | [] => ([], [])
  | '-' :: '-' :: '>' :: rest => ([], rest)
  | '-' :: '-' :: '!' :: '>' :: rest => ([], rest)
  | c :: rest =>
      let (text, rest) := commentText rest
      (c :: text, rest)

/-- Reads a comment behind `<!--`; `>` and `->` close it at once. -/
def readComment : List Char → Token × List Char
  | '>' :: rest => (.comment "", rest)
  | '-' :: '>' :: rest => (.comment "", rest)
  | chars =>
      let (text, rest) := commentText chars
      (.comment (String.ofList text), rest)

/-- Reads everything up to the next `>` as a comment. -/
def readBogusComment (chars : List Char) : Token × List Char :=
  let (text, rest) := (splitAt? '>' chars).getD (chars, [])
  (.comment (String.ofList text), rest)

/-- Reads a doctype behind its keyword; its name is the first word. -/
def readDoctype (chars : List Char) : Token × List Char :=
  let (text, rest) := (splitAt? '>' chars).getD (chars, [])
  (.doctype (folded (Text.firstWord text)), rest)

/-! ### Tags -/

/-- What lies behind the `>` of an end tag; a quoted `>` does not count. -/
def skipEndTag? : Option Char → List Char → Option (List Char)
  | _, [] => none
  | some quote, c :: rest =>
      skipEndTag? (if c = quote then none else some quote) rest
  | none, '>' :: rest => some rest
  | none, c :: rest =>
      skipEndTag? (if c = '"' || c = '\x27' then some c else none) rest

/-- Reads an end tag behind `</`; nothing when the markup ends inside it. -/
def readEndTag? (chars : List Char) : Option (Token × List Char) :=
  let name := chars.takeWhile (!endsTagName ·)
  (skipEndTag? none (chars.dropWhile (!endsTagName ·))).map fun rest =>
    (.endTag (folded name), rest)

/-- Reads an attribute value behind `=` and spaces. -/
def readValue? : List Char → Option (String × List Char)
  | [] => none
  | c :: rest =>
      if c = '"' || c = '\x27' then
        (splitAt? c rest).map fun parts => (decoded parts.1, parts.2)
      else
        some (decoded ((c :: rest).takeWhile (!endsBareValue ·)),
          (c :: rest).dropWhile (!endsBareValue ·))

/-- Reads an attribute whose name starts with `first`; an attribute without
`=` has the empty value. -/
def readAttribute? (first : Char) (rest : List Char) :
    Option ((String × String) × List Char) :=
  let name := folded (first :: rest.takeWhile (!endsAttributeName ·))
  match skipSpaces (rest.dropWhile (!endsAttributeName ·)) with
  | '=' :: rest =>
      (readValue? (skipSpaces rest)).map fun (value, rest) =>
        ((name, value), rest)
  | rest => some ((name, ""), rest)

theorem splitAt?_length {stop : Char} {chars first second : List Char}
    (split : splitAt? stop chars = some (first, second)) :
    second.length < chars.length := by
  induction chars generalizing first with
  | nil => simp [splitAt?] at split
  | cons c rest induction =>
      unfold splitAt? at split
      split at split
      · simp_all
      · obtain ⟨⟨_, _⟩, found, equal⟩ := Option.map_eq_some_iff.1 split
        grind

theorem dropWhile_length (drop : Char → Bool) (chars : List Char) :
    (chars.dropWhile drop).length ≤ chars.length :=
  (List.dropWhile_sublist drop).length_le

theorem readValue?_length {chars rest : List Char} {value : String}
    (found : readValue? chars = some (value, rest)) :
    rest.length ≤ chars.length := by
  unfold readValue? at found
  split at found
  · contradiction
  · rename_i c tail
    split at found
    · obtain ⟨⟨_, _⟩, split, equal⟩ := Option.map_eq_some_iff.1 found
      have shorter := splitAt?_length split
      grind
    · have shorter := dropWhile_length (!endsBareValue ·) (c :: tail)
      grind

theorem readAttribute?_length {first : Char} {chars rest : List Char}
    {pair : String × String}
    (found : readAttribute? first chars = some (pair, rest)) :
    rest.length ≤ chars.length := by
  have afterName := dropWhile_length (!endsAttributeName ·) chars
  have afterSpaces := dropWhile_length Text.isSpace
    (chars.dropWhile (!endsAttributeName ·))
  simp only [readAttribute?, skipSpaces] at found
  split at found
  · rename_i tail equal
    obtain ⟨⟨_, _⟩, read, equal'⟩ := Option.map_eq_some_iff.1 found
    have shorter := readValue?_length read
    have valueSpaces := dropWhile_length Text.isSpace tail
    simp_all
    grind
  · simp only [Option.some.injEq, Prod.mk.injEq] at found
    grind

/-- Reads attributes up to the end of the tag, keeping the first of each name.
The flag tells whether the tag closes itself with `/>`. -/
def readAttributes? (attributes : TagAttributes) (chars : List Char) :
    Option ((TagAttributes × Bool) × List Char) :=
  match _spaces : skipSpaces chars with
  | [] => none
  | '>' :: rest => some ((attributes, false), rest)
  | '/' :: '>' :: rest => some ((attributes, true), rest)
  | '/' :: rest =>
      have := dropWhile_length Text.isSpace chars
      readAttributes? attributes rest
  | c :: rest =>
      match found : readAttribute? c rest with
      | none => none
      | some (pair, tail) =>
          have := dropWhile_length Text.isSpace chars
          have := readAttribute?_length found
          if attributes.any (·.1 = pair.1) then readAttributes? attributes tail
          else readAttributes? (attributes ++ [pair]) tail
termination_by chars.length
decreasing_by all_goals grind [skipSpaces]

/-- Reads a start tag behind `<`; nothing when the markup ends inside it. -/
def readStartTag? (chars : List Char) : Option (Token × List Char) :=
  let name := chars.takeWhile (!endsTagName ·)
  (readAttributes? [] (chars.dropWhile (!endsTagName ·))).map
    fun ((attributes, selfClosing), rest) =>
      (.startTag (folded name) attributes selfClosing, rest)

/-! ### Markup and text -/

/-- Reads text up to the next `<`. -/
def readText (chars : List Char) : String × List Char :=
  (decoded (chars.takeWhile (· ≠ '<')), chars.dropWhile (· ≠ '<'))

/-- Reads a declaration behind `<!`. -/
def readDeclaration (chars : List Char) : Token × List Char :=
  match chars with
  | '-' :: '-' :: rest => readComment rest
  | _ =>
      let keyword := "doctype".toList
      if Text.startsWithIgnoringCase keyword chars then
        readDoctype (chars.drop keyword.length)
      else readBogusComment chars

/-- The next token of ordinary content.  A tag cut off by the end of the
markup is dropped, and so is `</>`. -/
def readContent? : List Char → Option (Token × List Char)
  | [] => none
  | '<' :: '!' :: rest => some (readDeclaration rest)
  | '<' :: '?' :: rest => some (readBogusComment ('?' :: rest))
  | ['<', '/'] => some (.text "</", [])
  | '<' :: '/' :: '>' :: rest => readContent? rest
  | '<' :: '/' :: c :: rest =>
      if c.isAlpha then readEndTag? (c :: rest)
      else some (readBogusComment (c :: rest))
  | '<' :: rest =>
      if rest.head?.any Char.isAlpha then readStartTag? rest
      else
        let (text, rest) := readText rest
        some (.text ("<" ++ text), rest)
  | chars =>
      let (text, rest) := readText chars
      some (.text text, rest)

/-- Whether `chars` starts with the end tag of `tag`. -/
def startsEndTag (tag : List Char) : List Char → Bool
  | '<' :: '/' :: rest =>
      Text.startsWithIgnoringCase tag rest &&
        (rest.drop tag.length).head?.all endsTagName
  | _ => false

/-- The characters before the first end tag of `tag`, and those from it on. -/
def splitAtEndTag (tag : List Char) : List Char → List Char × List Char
  | [] => ([], [])
  | c :: rest =>
      if startsEndTag tag (c :: rest) then ([], c :: rest)
      else
        let (text, rest) := splitAtEndTag tag rest
        (c :: text, rest)

/-- Splits off the text that a switch governs. -/
def TextSwitch.split (switch : TextSwitch) (chars : List Char) :
    List Char × List Char :=
  match switch.mode with
  | .endless => (chars, [])
  | .verbatim | .escapable => splitAtEndTag switch.tag.toList chars

/-- The text that a switch makes of the characters it governs. -/
def TextSwitch.read (switch : TextSwitch) (chars : List Char) : String :=
  match switch.mode with
  | .escapable => decoded chars
  | .verbatim | .endless => String.ofList chars

/-- Markup still to be read, and how text at its start is to be read. -/
structure Lexer where
  rest : List Char
  switch : Option TextSwitch := none
  deriving DecidableEq, Repr

/-! ### Progress -/

theorem commentText_length (chars : List Char) :
    (commentText chars).2.length ≤ chars.length := by
  fun_induction commentText chars <;> grind

theorem readComment_length (chars : List Char) :
    (readComment chars).2.length ≤ chars.length := by
  unfold readComment
  split
  · simp
  · simp; omega
  · exact commentText_length _

theorem splitAtMost_length (stop : Char) (chars : List Char) :
    ((splitAt? stop chars).getD (chars, [])).2.length ≤ chars.length := by
  cases split : splitAt? stop chars with
  | none => simp
  | some parts => exact Nat.le_of_lt (splitAt?_length split)

theorem readDeclaration_length (chars : List Char) :
    (readDeclaration chars).2.length ≤ chars.length := by
  unfold readDeclaration
  split
  · rename_i rest
    have shorter := readComment_length rest
    simp only [List.length_cons]
    omega
  · dsimp only
    split
    · have shorter := splitAtMost_length '>'
        (chars.drop "doctype".toList.length)
      exact Nat.le_trans shorter (by simp)
    · exact splitAtMost_length '>' chars

theorem skipEndTag?_length {quote : Option Char} {chars rest : List Char}
    (found : skipEndTag? quote chars = some rest) :
    rest.length < chars.length := by
  fun_induction skipEndTag? quote chars <;> grind

theorem readEndTag?_length {chars rest : List Char} {token : Token}
    (found : readEndTag? chars = some (token, rest)) :
    rest.length < chars.length := by
  obtain ⟨_, skipped, equal⟩ := Option.map_eq_some_iff.1 found
  have shorter := skipEndTag?_length skipped
  have := dropWhile_length (!endsTagName ·) chars
  grind

theorem readAttributes?_length {attributes : TagAttributes}
    {chars rest : List Char} {tag : TagAttributes × Bool}
    (found : readAttributes? attributes chars = some (tag, rest)) :
    rest.length < chars.length := by
  fun_induction readAttributes? attributes chars with
  | case1 => contradiction
  | case2 attributes chars tail spaces =>
    have := dropWhile_length Text.isSpace chars
    grind [skipSpaces]
  | case3 attributes chars tail spaces =>
    have := dropWhile_length Text.isSpace chars
    grind [skipSpaces]
  | case4 => grind [skipSpaces]
  | case5 => contradiction
  | case6 => grind [skipSpaces]
  | case7 => grind [skipSpaces]

theorem readStartTag?_length {chars rest : List Char} {token : Token}
    (found : readStartTag? chars = some (token, rest)) :
    rest.length < chars.length := by
  obtain ⟨⟨_, _⟩, read, equal⟩ := Option.map_eq_some_iff.1 found
  have shorter := readAttributes?_length read
  have := dropWhile_length (!endsTagName ·) chars
  grind

theorem readText_length {c : Char} (other : c ≠ '<') (rest : List Char) :
    (readText (c :: rest)).2.length ≤ rest.length := by
  simp only [readText, List.dropWhile_cons, ne_eq, other, not_false_eq_true,
    decide_true, if_true]
  exact dropWhile_length _ rest

theorem readContent?_length {chars rest : List Char} {token : Token}
    (found : readContent? chars = some (token, rest)) :
    rest.length < chars.length := by
  fun_induction readContent? chars with
  | case1 => contradiction
  | case2 tail =>
    have := readDeclaration_length tail
    grind
  | case3 tail =>
    have := splitAtMost_length '>' ('?' :: tail)
    grind [readBogusComment]
  | case4 => grind
  | case5 => grind
  | case6 => have := readEndTag?_length found; grind
  | case7 c tail =>
    have := splitAtMost_length '>' (c :: tail)
    grind [readBogusComment]
  | case8 => have := readStartTag?_length found; grind
  | case9 => grind [readText, dropWhile_length]
  | case10 chars _ _ _ _ _ _ noTag =>
    cases chars with
    | nil => contradiction
    | cons c tail =>
      have other : c ≠ '<' := fun same => noTag tail (by rw [same])
      have := readText_length other tail
      grind

theorem splitAtEndTag_append (tag chars : List Char) :
    (splitAtEndTag tag chars).1 ++ (splitAtEndTag tag chars).2 = chars := by
  fun_induction splitAtEndTag tag chars <;> grind

theorem TextSwitch.split_append (switch : TextSwitch) (chars : List Char) :
    (switch.split chars).1 ++ (switch.split chars).2 = chars := by
  unfold TextSwitch.split
  split <;> simp [splitAtEndTag_append]

namespace Lexer

/-- The lexer at the start of a markup. -/
def ofMarkup (markup : String) : Lexer where
  rest := markup.toList

/-- Reads ordinary content; at the end of it nothing is left. -/
def content (chars : List Char) : Option Token × Lexer :=
  match readContent? chars with
  | none => (none, { rest := [] })
  | some (token, rest) => (some token, { rest })

/-- The next token and the lexer behind it.  Text governed by a switch comes
as one token; when it is empty, ordinary content follows at once. -/
def next (lexer : Lexer) : Option Token × Lexer :=
  match lexer.switch with
  | none => content lexer.rest
  | some switch =>
      let (text, rest) := switch.split lexer.rest
      if text.isEmpty then content rest
      else (some (.text (switch.read text)), { rest })

theorem content_length {chars : List Char} {token : Token} {after : Lexer}
    (read : content chars = (some token, after)) :
    after.rest.length < chars.length := by
  unfold content at read
  split at read
  · simp at read
  · rename_i found
    have := readContent?_length found
    grind

theorem next_length {lexer after : Lexer} {token : Token}
    (read : lexer.next = (some token, after)) :
    after.rest.length < lexer.rest.length := by
  unfold next at read
  split at read
  · exact content_length read
  · rename_i switch _
    have whole := congrArg List.length (switch.split_append lexer.rest)
    simp only [List.length_append] at whole
    dsimp only at read
    split at read
    · have := content_length read
      omega
    · grind [List.isEmpty_iff, List.length_pos_iff]

end Lexer

end MarkupHarden.Html
