import MarkupHarden.CommandLine.ValuePattern
import MarkupHarden.Text.Alphanumeric
import MarkupHarden.Text.Ascii
import MarkupHarden.Text.Blank
import MarkupHarden.Text.Digits

/-!
# Log filters

A filter is a list of directives with commas between them.  A directive names
a target, a span in brackets or both, and may end with `=` and a level.  Behind
the name of a span a field may stand in braces, with or without a value.  Only
the form of a filter is checked here.

Blanks around a directive are passed over when its parts are looked for, but
levels and fields are cut out of the text with its blanks, at the places that
they have without them.
-/

namespace MarkupHarden.CommandLine.LogFilter

def levelNames : List String :=
  ["error", "warn", "info", "debug", "trace", "off"]

/-- A level is a name, up to case, or a number up to five. -/
def isLevel (chars : List Char) : Bool :=
  let digits := if chars.head? = some '+' then chars.tail else chars
  levelNames.any (Text.sameIgnoringCase · (String.ofList chars)) ||
    (Text.numberOf? 10 digits).any (· ≤ 5)

/-- Whether digits, perhaps with a point among them and an exponent behind,
are a decimal number. -/
def isDecimal (chars : List Char) : Bool :=
  let whole := chars.takeWhile Char.isDigit
  let rest := chars.drop whole.length
  let hasPoint := rest.head? = some '.'
  let rest := if hasPoint then rest.drop 1 else rest
  let part := if hasPoint then rest.takeWhile Char.isDigit else []
  let isExponent (exponent : List Char) : Bool :=
    !exponent.isEmpty && exponent.all Char.isDigit
  !(whole.isEmpty && part.isEmpty) &&
    match rest.drop part.length with
    | [] => true
    | 'e' :: '+' :: exponent | 'e' :: '-' :: exponent
    | 'E' :: '+' :: exponent | 'E' :: '-' :: exponent
    | 'e' :: exponent | 'E' :: exponent => isExponent exponent
    | _ => false

/-- A number is decimal or has a name, and may have a sign. -/
def isNumber (chars : List Char) : Bool :=
  let unsigned :=
    match chars with
    | '+' :: rest | '-' :: rest => rest
    | _ => chars
  isDecimal unsigned ||
    ["inf", "infinity", "nan"].any
      (Text.sameIgnoringCase · (String.ofList unsigned))

/-- A field is a name, which may be empty if a value follows it.  A value is a
number or a pattern and ends at the next equals sign. -/
def isField (chars : List Char) : Bool :=
  !chars.isEmpty &&
    match chars.dropWhile (· ≠ '=') with
    | [] => true
    | _ :: rest =>
        let value := rest.takeWhile (· ≠ '=')
        isNumber value || ValuePattern.isPattern value

/-- A directive as it is written, with the blanks around it. -/
structure Written where
  text : List Char

namespace Written

def directive (written : Written) : List Char :=
  Text.trimBoth Text.isBlank written.text

/-- The text from the place on at which `rest`, the end of the directive,
starts in the directive. -/
def cut (written : Written) (rest : List Char) : List Char :=
  written.text.drop (written.directive.length - rest.length)

/-- A directive behind its target and span: nothing, or `=` with a level. -/
def isLevelPart (written : Written) : List Char → Bool
  | [] => true
  | '=' :: rest =>
      let level := written.cut rest
      level.isEmpty || isLevel level
  | _ => false

/-- A span behind its opening bracket, and what follows it. -/
def isSpanPart (written : Written) (chars : List Char) : Bool :=
  let name := chars.takeWhile fun c => c ≠ ']' && c ≠ '\x7b'
  match chars.drop name.length with
  | ']' :: rest => written.isLevelPart rest
  | '\x7b' :: rest =>
      let field := rest.takeWhile (· ≠ '\x7d')
      match rest.drop field.length with
      | '\x7d' :: ']' :: after =>
          isField ((written.cut rest).take field.length) &&
            written.isLevelPart after
      | _ => false
  | _ => false

end Written

/-- The first character of a target. -/
def startsTarget (c : Char) : Bool :=
  Text.isAlphanumeric c || c = '-' || c = ':' || c = '_'

def isDirective (written : Written) : Bool :=
  match written.directive with
  | [] => false
  | '[' :: rest => written.isSpanPart rest
  | c :: rest =>
      startsTarget c &&
        match rest.dropWhile fun c => c ≠ '=' && c ≠ '[' with
        | '[' :: rest => written.isSpanPart rest
        | rest => written.isLevelPart rest

/-- Whether a text is a filter; empty directives do not count. -/
def isValid (text : String) : Bool :=
  (text.toList.splitOn ',').all fun chars =>
    chars.isEmpty || isDirective { text := chars }

end MarkupHarden.CommandLine.LogFilter
