import MarkupHarden.Text.Digits

/-!
# Character references

An ampersand starts a reference when the text up to the next semicolon is a
known name or a number.  Text without such a reference stands for itself, so
decoding is total.  The escapes that a serializer writes are defined here too.
-/

namespace MarkupHarden.Html.CharacterReference

/-- The named references. -/
def named : List (String × Char) :=
  [("amp", '&'), ("lt", '<'), ("gt", '>'), ("quot", '"'), ("apos", '\x27'),
    ("nbsp", '\u00a0'), ("copy", '\u00a9'), ("reg", '\u00ae'),
    ("trade", '\u2122'), ("hellip", '\u2026'), ("mdash", '\u2014'),
    ("ndash", '\u2013'), ("lsquo", '\u2018'), ("rsquo", '\u2019'),
    ("ldquo", '\u201c'), ("rdquo", '\u201d'), ("laquo", '\u00ab'),
    ("raquo", '\u00bb'), ("middot", '\u00b7'), ("bull", '\u2022'),
    ("euro", '\u20ac'), ("pound", '\u00a3'), ("yen", '\u00a5'),
    ("cent", '\u00a2'), ("sect", '\u00a7'), ("deg", '\u00b0'),
    ("plusmn", '\u00b1'), ("times", '\u00d7'), ("divide", '\u00f7'),
    ("para", '\u00b6'), ("shy", '\u00ad'), ("zwj", '\u200d'),
    ("zwnj", '\u200c')]

/-- A 32-bit number: at least one digit, after an optional plus sign. -/
def number? (base : Nat) (chars : List Char) : Option Nat :=
  let chars :=
    match chars with
    | '+' :: rest => rest
    | _ => chars
  (Text.numberOf? base chars).filter (· < 0x100000000)

/-- The character with a given code point; zero, surrogates and numbers beyond
the last code point stand for the replacement character. -/
def ofCodePoint (code : Nat) : Char :=
  if code ≠ 0 ∧ code.isValidChar then Char.ofNat code else '\ufffd'

/-- The character that a reference between ampersand and semicolon names. -/
def resolve? : List Char → Option Char
  | '#' :: 'x' :: digits | '#' :: 'X' :: digits =>
      (number? 16 digits).map ofCodePoint
  | '#' :: digits => (number? 10 digits).map ofCodePoint
  | name => named.lookup (String.ofList name)

/-- Splits at the first semicolon, which belongs to neither part. -/
def splitSemicolon? : List Char → Option (List Char × List Char)
  | [] => none
  | ';' :: rest => some ([], rest)
  | c :: rest =>
      (splitSemicolon? rest).map fun parts => (c :: parts.1, parts.2)

/-- Reads a reference whose ampersand has been taken. -/
def read? (chars : List Char) : Option (Char × List Char) :=
  (splitSemicolon? chars).bind fun parts =>
    (resolve? parts.1).map fun c => (c, parts.2)

theorem splitSemicolon?_length {chars name rest : List Char}
    (split : splitSemicolon? chars = some (name, rest)) :
    rest.length < chars.length := by
  induction chars generalizing name with
  | nil => simp [splitSemicolon?] at split
  | cons c tail induction =>
      unfold splitSemicolon? at split
      split at split
      · contradiction
      · simp_all
      · obtain ⟨⟨_, _⟩, found, equal⟩ := Option.map_eq_some_iff.1 split
        grind

theorem read?_length {chars rest : List Char} {c : Char}
    (found : read? chars = some (c, rest)) : rest.length < chars.length := by
  obtain ⟨⟨name, tail⟩, split, resolved⟩ := Option.bind_eq_some_iff.1 found
  obtain ⟨_, _, equal⟩ := Option.map_eq_some_iff.1 resolved
  cases equal
  exact splitSemicolon?_length split

/-- The text with every reference replaced by its character. -/
def decode : List Char → List Char
  | [] => []
  | '&' :: rest =>
      match found : read? rest with
      | some (c, tail) =>
          have := read?_length found
          c :: decode tail
      | none => '&' :: decode rest
  | c :: rest => c :: decode rest
termination_by chars => chars.length

/-- The written form of a character in text. -/
def escapeTextChar : Char → List Char
  | '&' => "&amp;".toList
  | '<' => "&lt;".toList
  | '>' => "&gt;".toList
  | '\u00a0' => "&nbsp;".toList
  | c => [c]

/-- The written form of a character in a quoted attribute value. -/
def escapeAttributeChar : Char → List Char
  | '&' => "&amp;".toList
  | '"' => "&quot;".toList
  | '\u00a0' => "&nbsp;".toList
  | c => [c]

def escapeText (chars : List Char) : List Char :=
  chars.flatMap escapeTextChar

def escapeAttribute (chars : List Char) : List Char :=
  chars.flatMap escapeAttributeChar

end MarkupHarden.Html.CharacterReference
