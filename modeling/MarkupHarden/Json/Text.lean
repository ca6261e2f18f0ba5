import MarkupHarden.Json.Basic
import MarkupHarden.Text.Digits

/-!
# Reading JSON

`Json.parse?` reads a text that holds exactly one JSON value.  Of members with
the same key the last one counts, values may be nested less than 128 levels
deep, and numbers beyond the range of doubles are refused.
-/

namespace MarkupHarden.Json

/-- Blanks between the parts of a value. -/
def isGap (c : Char) : Bool :=
  c = ' ' || c = '\n' || c = '\t' || c = '\x0d'

def skipGaps (chars : List Char) : List Char :=
  chars.dropWhile isGap

/-! ### Strings -/

/-- Four hexadecimal digits and what follows them. -/
def readUnit? : List Char → Option (Nat × List Char)
  | a :: b :: c :: d :: rest =>
      (Text.numberOf? 16 [a, b, c, d]).map fun unit => (unit, rest)
  | _ => none

/-- The character of an escape behind `\u`.  Characters beyond the first 65536
take two escapes. -/
def readEscapedUnit? (chars : List Char) : Option (Char × List Char) :=
  match readUnit? chars with
  | none => none
  | some (high, rest) =>
      if 0xD800 ≤ high ∧ high < 0xDC00 then
        match rest with
        | '\\' :: 'u' :: rest =>
            match readUnit? rest with
            | some (low, rest) =>
                if 0xDC00 ≤ low ∧ low < 0xE000 then
                  some (Char.ofNat
                    (0x10000 + (high - 0xD800) * 0x400 + (low - 0xDC00)),
                    rest)
                else none
            | none => none
        | _ => none
      else if 0xDC00 ≤ high ∧ high < 0xE000 then none
      else some (Char.ofNat high, rest)

/-- The character that a single letter behind a backslash stands for. -/
def escapeLetter? : Char → Option Char
  | '"' => some '"'
  | '\\' => some '\\'
  | '/' => some '/'
  | 'b' => some '\x08'
  | 'f' => some '\x0c'
  | 'n' => some '\n'
  | 'r' => some '\x0d'
  | 't' => some '\t'
  | _ => none

/-- Reads a string behind its opening quote, in at most `limit` steps. -/
def readString? : Nat → List Char → Option (List Char × List Char)
  | 0, _ | _, [] => none
  | _, '"' :: rest => some ([], rest)
  | limit + 1, '\\' :: 'u' :: rest =>
      (readEscapedUnit? rest).bind fun (c, rest) =>
        (readString? limit rest).map fun (text, rest) => (c :: text, rest)
  | limit + 1, '\\' :: letter :: rest =>
      (escapeLetter? letter).bind fun c =>
        (readString? limit rest).map fun (text, rest) => (c :: text, rest)
  | limit + 1, c :: rest =>
      if c.toNat < 0x20 || c = '\\' then none
      else (readString? limit rest).map fun (text, rest) => (c :: text, rest)

/-! ### Numbers -/

/-- The parts of a number: its digits before and behind the point and its
exponent. -/
structure NumberParts where
  whole : List Char
  fraction : Option (List Char) := none
  exponent : Option (Bool × List Char) := none

/-- Reads the digits of a fraction behind the whole part, if a point follows. -/
def readFraction? : List Char → Option (Option (List Char) × List Char)
  | '.' :: rest =>
      let digits := rest.takeWhile Char.isDigit
      if digits.isEmpty then none
      else some (some digits, rest.dropWhile Char.isDigit)
  | rest => some (none, rest)

/-- Reads an exponent, if one follows; the flag marks a negative one. -/
def readExponent? (chars : List Char) :
    Option (Option (Bool × List Char) × List Char) :=
  match chars with
  | mark :: rest =>
      if mark = 'e' || mark = 'E' then
        let (isNegative, rest) :=
          match rest with
          | '-' :: rest => (true, rest)
          | '+' :: rest => (false, rest)
          | _ => (false, rest)
        let digits := rest.takeWhile Char.isDigit
        if digits.isEmpty then none
        else some (some (isNegative, digits), rest.dropWhile Char.isDigit)
      else some (none, chars)
  | [] => some (none, [])

/-- Reads a number without its sign.  Only zero itself starts with a zero. -/
def readNumberParts? (chars : List Char) :
    Option (NumberParts × List Char) := do
  let whole := chars.takeWhile Char.isDigit
  if whole.isEmpty || (whole.length > 1 && whole.head? = some '0') then none
  let (fraction, rest) ← readFraction? (chars.dropWhile Char.isDigit)
  let (exponent, rest) ← readExponent? rest
  some ({ whole, fraction, exponent }, rest)

/-- The digits that fit into 64 bits, as a number, and how many are left. -/
def leadingDigits : Nat → List Char → Nat × Nat
  | value, [] => (value, 0)
  | value, c :: rest =>
      let longer := value * 10 + (c.toNat - 48)
      if longer < 0x10000000000000000 then leadingDigits longer rest
      else (value, rest.length + 1)

/-- The double of a number with a fraction, an exponent or too many digits.
Digits beyond 64 bits only count as places. -/
def doubleOfParts? (parts : NumberParts) : Option Double :=
  let (whole, dropped) := leadingDigits 0 parts.whole
  let fraction := parts.fraction.getD []
  let (value, left) := leadingDigits whole fraction
  let places : Int := dropped - (fraction.length - left : Nat)
  let power : Int :=
    match parts.exponent with
    | none => 0
    | some (isNegative, digits) =>
        let size : Int := (Text.numberOf? 10 digits).getD 0
        if isNegative then -size else size
  (Double.ofNat? value).bind fun double =>
    Double.scaleByTen? double (places + power)

/-- The value of a number. -/
def numberOfParts? (isNegative : Bool) (parts : NumberParts) : Option Number :=
  let (value, dropped) := leadingDigits 0 parts.whole
  if parts.fraction.isNone && parts.exponent.isNone && dropped = 0 &&
      (!isNegative || (0 < value && value ≤ 0x8000000000000000)) then
    some (if isNegative then .negative value else .natural value)
  else (doubleOfParts? parts).map (.double isNegative)

/-- Reads a number. -/
def readNumber? (chars : List Char) : Option (Json × List Char) := do
  let (isNegative, chars) :=
    match chars with
    | '-' :: rest => (true, rest)
    | _ => (false, chars)
  let (parts, rest) ← readNumberParts? chars
  let number ← numberOfParts? isNegative parts
  some (.number number, rest)

/-! ### Values -/

/-- Reads a given word. -/
def readWord? (word : String) (value : Json) (chars : List Char) :
    Option (Json × List Char) :=
  if word.toList.isPrefixOf chars then
    some (value, chars.drop word.toList.length)
  else none

mutual

/-- Reads a value in at most `limit` steps, with `depth` levels of nesting
allowed in it. -/
def readValue? (limit depth : Nat) (chars : List Char) :
    Option (Json × List Char) :=
  match limit, skipGaps chars with
  | 0, _ | _, [] => none
  | limit + 1, '[' :: rest =>
      if depth = 0 then none
      else
        match skipGaps rest with
        | ']' :: rest => some (.array [], rest)
        | rest =>
            (readItems? limit (depth - 1) rest).map fun (items, rest) =>
              (.array items, rest)
  | limit + 1, '\x7b' :: rest =>
      if depth = 0 then none
      else
        match skipGaps rest with
        | '\x7d' :: rest => some (.object [], rest)
        | rest =>
            (readMembers? limit (depth - 1) [] rest).map
              fun (members, rest) => (.object members, rest)
  | _, '"' :: rest =>
      (readString? (rest.length + 1) rest).map fun (text, rest) =>
        (.string (String.ofList text), rest)
  | _, 't' :: rest => readWord? "true" (.bool true) ('t' :: rest)
  | _, 'f' :: rest => readWord? "false" (.bool false) ('f' :: rest)
  | _, 'n' :: rest => readWord? "null" .null ('n' :: rest)
  | _, chars => readNumber? chars

/-- Reads items up to the closing bracket. -/
def readItems? (limit depth : Nat) (chars : List Char) :
    Option (List Json × List Char) :=
  match limit with
  | 0 => none
  | limit + 1 =>
      (readValue? limit depth chars).bind fun (item, rest) =>
        match skipGaps rest with
        | ',' :: rest =>
            (readItems? limit depth rest).map fun (items, rest) =>
              (item :: items, rest)
        | ']' :: rest => some ([item], rest)
        | _ => none

/-- Reads members up to the closing brace and adds them to those given. -/
def readMembers? (limit depth : Nat) (members : Members) (chars : List Char) :
    Option (Members × List Char) :=
  match limit, skipGaps chars with
  | limit + 1, '"' :: rest =>
      (readString? (rest.length + 1) rest).bind fun (key, rest) =>
        match skipGaps rest with
        | ':' :: rest =>
            (readValue? limit depth rest).bind fun (value, rest) =>
              let members := members.insert (String.ofList key) value
              match skipGaps rest with
              | ',' :: rest => readMembers? limit depth members rest
              | '\x7d' :: rest => some (members, rest)
              | _ => none
        | _ => none
  | _, _ => none

end

/-- The value that a text holds. -/
def parse? (text : String) : Option Json :=
  let chars := text.toList
  match readValue? (2 * chars.length + 2) 127 chars with
  | some (value, rest) => if (skipGaps rest).isEmpty then some value else none
  | none => none

end MarkupHarden.Json
