import MarkupHarden.Text.Alphanumeric
import MarkupHarden.Text.Blank
import MarkupHarden.Text.Digits

/-!
# Patterns for values

A log filter may describe the value of a field by a regular expression; here is
decided which texts are one.  Patterns are matched without tables of letters, so
with Unicode on all that needs them is refused: classes such as `\d`, boundaries
of words and ignoring case.  With Unicode off, a pattern still has to match whole
characters, and what could match a part of one is refused: the dot, complements
and bytes beyond ASCII.  A value never holds a closing brace, so nothing that
ends with one, like a counted repetition, has a form here.

`isPattern` is the entry point.
-/

namespace MarkupHarden.CommandLine.ValuePattern

/-- How a pattern is read from some place on. -/
structure Mode where
  /-- Whether blanks and comments do not count. -/
  isVerbose : Bool := false
  ignoresCase : Bool := false
  isUnicode : Bool := true

/-- Drops blanks and comments, which run from `#` to the end of the line. -/
def dropSpace (inComment : Bool) : List Char → List Char
  | [] => []
  | c :: rest =>
      if inComment then dropSpace (c ≠ '\n') rest
      else if c = '#' then dropSpace true rest
      else if Text.isBlank c then dropSpace false rest
      else c :: rest

namespace Mode

/-- Drops what does not count at the start. -/
def skip (mode : Mode) (chars : List Char) : List Char :=
  if mode.isVerbose then dropSpace false chars else chars

/-- The first character behind blanks and the mark of a comment. -/
def glance (mode : Mode) (chars : List Char) : Option Char :=
  if mode.isVerbose then
    match chars.dropWhile Text.isBlank with
    | '#' :: comment => (comment.dropWhile Text.isBlank).head?
    | rest => rest.head?
  else chars.head?

/-- Whether letters would have to be folded by a table. -/
def foldsLetters (mode : Mode) : Bool :=
  mode.isUnicode && mode.ignoresCase

/-- Whether a class may stand in a set. -/
def allowsClass (mode : Mode) (isNegated : Bool) : Bool :=
  if mode.isUnicode then !mode.ignoresCase else !isNegated

/-- Changes a mode by flags; those behind a hyphen are switched off. -/
def change (mode : Mode) (flags : List Char) : Mode :=
  let value (flag : Char) (current : Bool) : Bool :=
    (flags.takeWhile (· ≠ '-')).contains flag ||
      (current && !flags.contains flag)
  { isVerbose := value 'x' mode.isVerbose
    ignoresCase := value 'i' mode.ignoresCase
    isUnicode := value 'u' mode.isUnicode }

end Mode

/-- Flags are different letters.  One hyphen may stand among them, though not
at the end. -/
def areFlags (chars : List Char) : Bool :=
  chars.all ("-imsURux".toList.contains ·) &&
    chars.eraseDups.length = chars.length && chars.getLast? ≠ some '-'

/-! ### Elements -/

/-- What one place of a pattern asks for. -/
inductive Element where
  /-- A character, perhaps given by the number of a byte. -/
  | literal (c : Char) (isByte : Bool)
  /-- Digits, blanks or word characters, or all but these. -/
  | kind (isNegated : Bool)
  | wordBoundary
  | textBoundary
  | any

namespace Element

def isAllowed (mode : Mode) : Element → Bool
  | .literal c isByte =>
      if mode.isUnicode then !mode.ignoresCase
      else !isByte || c.toNat < 0x80
  | .kind isNegated => !mode.isUnicode && !isNegated
  | .wordBoundary => !mode.isUnicode
  | .textBoundary => true
  | .any => mode.isUnicode

/-- Whether an element may stand in a set. -/
def isMember (mode : Mode) : Element → Bool
  | .literal c _ =>
      if mode.isUnicode then !mode.ignoresCase else c.toNat < 0x80
  | .kind isNegated => !mode.isUnicode && !isNegated
  | _ => false

/-- Whether two elements are the ends of a range. -/
def areOrdered : Element → Element → Bool
  | .literal first _, .literal last _ => first ≤ last
  | _, _ => false

end Element

/-- Reads a number of `count` hexadecimal digits. -/
def readHex? (mode : Mode) :
    Nat → Nat → List Char → Option (Nat × List Char)
  | 0, value, chars => some (value, chars)
  | _, _, [] => none
  | count + 1, value, c :: rest =>
      (Text.digitValue? 16 c).bind fun digit =>
        readHex? mode count (16 * value + digit) (mode.skip rest)

/-- Reads a character given by `count` hexadecimal digits. -/
def readCode? (mode : Mode) (count : Nat) (chars : List Char) :
    Option (Element × List Char) :=
  (readHex? mode count 0 (mode.skip chars)).bind fun (code, rest) =>
    if code.isValidChar then
      some (.literal (Char.ofNat code) (count = 2), rest)
    else none

/-- What a character stands for behind a backslash.  Letters and digits without
a meaning are not allowed. -/
def escaped? (c : Char) : Option Element :=
  match c with
  | 'a' => some (.literal '\x07' false)
  | 'f' => some (.literal '\x0c' false)
  | 'n' => some (.literal '\n' false)
  | 'r' => some (.literal '\x0d' false)
  | 't' => some (.literal '\t' false)
  | 'v' => some (.literal '\x0b' false)
  | 'd' | 's' | 'w' => some (.kind false)
  | 'D' | 'S' | 'W' => some (.kind true)
  | 'b' | 'B' | '<' | '>' => some .wordBoundary
  | 'A' | 'z' => some .textBoundary
  | c =>
      if c.toNat < 0x80 && !c.isAlphanum then some (.literal c false)
      else none

/-- Reads an element behind its backslash. -/
def readEscape? (mode : Mode) : List Char → Option (Element × List Char)
  | [] => none
  | 'x' :: rest => readCode? mode 2 rest
  | 'u' :: rest => readCode? mode 4 rest
  | 'U' :: rest => readCode? mode 8 rest
  | c :: rest => (escaped? c).map (·, rest)

/-- Reads an element for which no operator stands. -/
def readElement? (mode : Mode) : List Char → Option (Element × List Char)
  | [] => none
  | '\\' :: rest => readEscape? mode rest
  | c :: rest => some (.literal c false, rest)

/-! ### Depth -/

/-- How deep a pattern may be nested. -/
def deepest : Nat := 250

/-- The depth of parts side by side. -/
def joinedDepth : List Nat → Nat
  | [] => 0
  | [depth] => depth
  | depths => depths.foldl max 0 + 1

/-! ### Sets -/

def classNames : List String :=
  ["alnum", "alpha", "ascii", "blank", "cntrl", "digit", "graph", "lower",
    "print", "punct", "space", "upper", "word", "xdigit"]

/-- Reads a named class behind its bracket: whether it is negated, and what
follows it. -/
def readClass? : List Char → Option (Bool × List Char)
  | ':' :: rest =>
      let isNegated := rest.head? = some '^'
      let rest := if isNegated then rest.drop 1 else rest
      let name := rest.takeWhile (· ≠ ':')
      match rest.drop name.length with
      | ':' :: ']' :: after =>
          if classNames.contains (String.ofList name) then
            some (isNegated, after)
          else none
      | _ => none
  | _ => none

/-- A set behind its opening bracket. -/
structure SetStart where
  isNegated : Bool
  /-- How many characters stand for themselves only because they are here. -/
  count : Nat
  rest : List Char

/-- Counts and drops the hyphens at the start, in at most `limit` steps. -/
def dropHyphens (mode : Mode) : Nat → List Char → Nat × List Char
  | limit + 1, '-' :: rest =>
      let (count, rest) := dropHyphens mode limit (mode.skip rest)
      (count + 1, rest)
  | _, chars => (0, chars)

/-- Reads the start of a set: perhaps a mark of negation, then hyphens or else
a closing bracket. -/
def readSetStart (mode : Mode) (chars : List Char) : SetStart :=
  let chars := mode.skip chars
  let isNegated := chars.head? = some '^'
  match if isNegated then mode.skip (chars.drop 1) else chars with
  | ']' :: rest => { isNegated, count := 1, rest }
  | chars =>
      let (count, rest) := dropHyphens mode chars.length chars
      { isNegated, count, rest }

def SetStart.isAllowed (mode : Mode) (start : SetStart) : Bool :=
  (mode.isUnicode || !start.isNegated) &&
    (start.count = 0 || !mode.foldsLetters)

/-- Reads a member of a set: an element or a range. -/
def readMember? (mode : Mode) (chars : List Char) : Option (List Char) :=
  (readElement? mode chars).bind fun (first, rest) =>
    let rest := mode.skip rest
    let next? := mode.glance (rest.drop 1)
    if rest.head? ≠ some '-' || next? = some ']' || next? = some '-' then
      if first.isMember mode then some rest else none
    else
      (readElement? mode (mode.skip (rest.drop 1))).bind fun (last, rest) =>
        if first.areOrdered last && first.isMember mode && last.isMember mode
        then some rest
        else none

/-- The depth of a set with the operand in front of its last operator, if there
is one, and the members behind it. -/
def setDepth (left : Option Nat) (members : List Nat) : Nat :=
  match left with
  | none => joinedDepth members
  | some depth => max depth (joinedDepth members) + 1

/-- Reads a set up to its closing bracket, in at most `limit` steps: the depth
of what it holds, and what follows it. -/
def readSet? (mode : Mode) :
    Nat → Option Nat → List Nat → List Char → Option (Nat × List Char)
  | 0, _, _, _ => none
  | limit + 1, left, members, chars =>
      match mode.skip chars with
      | [] => none
      | ']' :: rest => some (setDepth left members, rest)
      | '&' :: '&' :: rest | '-' :: '-' :: rest | '~' :: '~' :: rest =>
          readSet? mode limit (some (setDepth left members)) [] rest
      | '[' :: rest =>
          match readClass? rest with
          | some (isNegated, rest) =>
              if mode.allowsClass isNegated then
                readSet? mode limit left (0 :: members) rest
              else none
          | none =>
              let start := readSetStart mode rest
              if start.isAllowed mode then
                (readSet? mode limit none (List.replicate start.count 0)
                  start.rest).bind fun (depth, rest) =>
                    readSet? mode limit left ((depth + 1) :: members) rest
              else none
      | chars =>
          (readMember? mode chars).bind
            (readSet? mode limit left (0 :: members))

/-- Reads a set behind its opening bracket: its depth, and what follows it. -/
def readWholeSet? (mode : Mode) (chars : List Char) :
    Option (Nat × List Char) :=
  let start := readSetStart mode chars
  if start.isAllowed mode then
    (readSet? mode (chars.length + 1) none (List.replicate start.count 0)
      start.rest).map fun (depth, rest) => (depth + 1, rest)
  else none

/-! ### Groups -/

/-- What a parenthesis opens. -/
inductive Opening where
  | group (mode : Mode) (name : Option (List Char))
  /-- No group, but a change of the mode for the rest of the one around. -/
  | change (mode : Mode)

def isGroupName : List Char → Bool
  | [] => false
  | first :: rest =>
      (first = '_' || Text.isAlphabetic first) &&
        rest.all fun c =>
          Text.isAlphanumeric c || c = '_' || c = '.' || c = '[' || c = ']'

/-- Reads the name of a group, which ends with an angle bracket. -/
def readGroupName? (mode : Mode) (chars : List Char) :
    Option (Opening × List Char) :=
  let name := chars.takeWhile (· ≠ '>')
  match chars.drop name.length with
  | _ :: rest =>
      if isGroupName name then some (.group mode (some name), rest) else none
  | [] => none

/-- Reads flags and the colon or parenthesis behind them. -/
def readFlags? (mode : Mode) (chars : List Char) :
    Option (Opening × List Char) :=
  let flags := chars.takeWhile fun c => c ≠ ':' && c ≠ ')'
  if !areFlags flags then none
  else
    match chars.drop flags.length with
    | ':' :: rest => some (.group (mode.change flags) none, rest)
    | _ :: rest =>
        if flags.isEmpty then none
        else some (.change (mode.change flags), rest)
    | [] => none

/-- Reads what stands behind an opening parenthesis. -/
def readOpening? (mode : Mode) (chars : List Char) :
    Option (Opening × List Char) :=
  match mode.skip chars with
  | '?' :: 'P' :: '<' :: rest | '?' :: '<' :: rest =>
      readGroupName? mode rest
  | '?' :: rest => readFlags? mode rest
  | rest => some (.group mode none, rest)

/-! ### Patterns -/

/-- What is read so far of a group or of the whole pattern: the depths of the
branches that have ended, and of the parts of the last branch, its last part
first.  A change of the mode is a part without a depth. -/
structure Level where
  mode : Mode
  branches : List Nat := []
  parts : List (Option Nat) := []

namespace Level

def add (level : Level) (depth : Nat) : Level :=
  { level with parts := some depth :: level.parts }

def change (level : Level) (mode : Mode) : Level :=
  { level with mode, parts := none :: level.parts }

def endBranch (level : Level) : Level :=
  { level with
    branches := joinedDepth (level.parts.map (·.getD 0)) :: level.branches
    parts := [] }

/-- Repeats the last part, if there is one that can be repeated. -/
def repeat? (level : Level) : Option Level :=
  match level.parts with
  | some depth :: parts =>
      some { level with parts := some (depth + 1) :: parts }
  | _ => none

def depth (level : Level) : Nat :=
  joinedDepth level.endBranch.branches

end Level

/-- How far a pattern is read. -/
structure Progress where
  level : Level
  /-- The levels around, the nearest first. -/
  outer : List Level := []
  /-- The names of groups so far. -/
  names : List (List Char) := []

namespace Progress

/-- Whether all groups are closed and none is too deep. -/
def isComplete (progress : Progress) : Bool :=
  progress.outer.isEmpty && progress.level.depth ≤ deepest

def open? (progress : Progress) : Opening → Option Progress
  | .change mode => some { progress with level := progress.level.change mode }
  | .group mode name =>
      if name.any progress.names.contains then none
      else
        some
          { level := { mode }
            outer := progress.level :: progress.outer
            names := name.toList ++ progress.names }

def close? (progress : Progress) : Option Progress :=
  match progress.outer with
  | [] => none
  | level :: outer =>
      some
        { progress with level := level.add (progress.level.depth + 1), outer }

def addElement? (progress : Progress) (element : Element) :
    Option Progress :=
  if element.isAllowed progress.level.mode then
    some { progress with level := progress.level.add 0 }
  else none

/-- Reads the next part or operator. -/
def step? (progress : Progress) :
    List Char → Option (Progress × List Char)
  | [] => none
  | '(' :: rest =>
      (readOpening? progress.level.mode rest).bind fun (opening, rest) =>
        (progress.open? opening).map (·, rest)
  | ')' :: rest => progress.close?.map (·, rest)
  | '|' :: rest =>
      some ({ progress with level := progress.level.endBranch }, rest)
  | '[' :: rest =>
      (readWholeSet? progress.level.mode rest).map fun (depth, rest) =>
        ({ progress with level := progress.level.add depth }, rest)
  | '?' :: '?' :: rest | '*' :: '?' :: rest | '+' :: '?' :: rest
  | '?' :: rest | '*' :: rest | '+' :: rest =>
      progress.level.repeat?.map fun level => ({ progress with level }, rest)
  | '\x7b' :: _ => none
  | '.' :: rest => (progress.addElement? .any).map (·, rest)
  | '^' :: rest | '$' :: rest =>
      (progress.addElement? .textBoundary).map (·, rest)
  | chars =>
      (readElement? progress.level.mode chars).bind fun (element, rest) =>
        (progress.addElement? element).map (·, rest)

/-- Reads the rest of a pattern, in at most `limit` steps. -/
def accepts : Nat → Progress → List Char → Bool
  | 0, _, _ => false
  | limit + 1, progress, chars =>
      match progress.level.mode.skip chars with
      | [] => progress.isComplete
      | chars =>
          (progress.step? chars).any fun (progress, rest) =>
            accepts limit progress rest

end Progress

/-- Whether a text is a pattern. -/
def isPattern (chars : List Char) : Bool :=
  Progress.accepts (chars.length + 1) { level := { mode := {} } } chars

end MarkupHarden.CommandLine.ValuePattern
