import MarkupHarden.Fault
import MarkupHarden.Text.Ascii
import MarkupHarden.Text.Blank

/-!
# Lists of allowed schemes

A list of the URL schemes that attribute values may use.  Its entries are in
lower case, and each stands once.  A strict list refuses entries that are no
schemes; a lenient one leaves them out and falls back to `http` and `https`
when nothing is left.
-/

namespace MarkupHarden.Rule

/-- Allowed schemes in the order in which they were first given. -/
structure SchemeList where
  schemes : List String
  deriving DecidableEq, Repr

/-- A letter followed by letters, digits, `+`, `-` or `.`. -/
def isScheme (chars : List Char) : Bool :=
  chars.head?.any Char.isAlpha &&
    chars.all fun c => c.isAlphanum || c = '+' || c = '-' || c = '.'

/-- The text without one final `:`. -/
def dropColon (chars : List Char) : List Char :=
  if chars.getLast? = some ':' then chars.dropLast else chars

/-- The scheme that an entry names, in lower case; blanks around it and one
final `:` do not count. -/
def normalScheme? (raw : String) : Option String :=
  let chars := dropColon (Text.trimBoth Text.isBlank raw.toList)
  if isScheme chars then some (Text.lower (String.ofList chars)) else none

namespace SchemeList

/-- The list that is used when no other is given. -/
def default : SchemeList where
  schemes := ["http", "https"]

/-- The entries in order of their first occurrence, each once. -/
def distinct (schemes : List String) : List String :=
  schemes.foldl
    (fun kept scheme => if kept.contains scheme then kept else kept ++ [scheme])
    []

/-- The normal forms of all entries, or the first entry that has none. -/
def normalized : List String → Except Fault (List String)
  | [] => .ok []
  | raw :: rest =>
      match normalScheme? raw with
      | none => .error (.invalidScheme raw)
      | some scheme => (normalized rest).map (scheme :: ·)

def strict (entries : List String) : Except Fault SchemeList :=
  match normalized entries with
  | .error fault => .error fault
  | .ok [] => .error .emptySchemeList
  | .ok schemes => .ok { schemes := distinct schemes }

def lenient (entries : List String) : SchemeList :=
  match distinct (entries.filterMap normalScheme?) with
  | [] => default
  | schemes => { schemes }

/-- Whether the list holds a scheme, up to case. -/
def allows (list : SchemeList) (scheme : String) : Bool :=
  list.schemes.any fun allowed => Text.sameIgnoringCase allowed scheme

def size (list : SchemeList) : Nat :=
  list.schemes.length

end SchemeList

end MarkupHarden.Rule
