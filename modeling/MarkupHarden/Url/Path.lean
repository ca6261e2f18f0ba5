import MarkupHarden.Url.Percent

/-!
# Paths

The path of a URL is kept as text: empty, or segments each behind a slash.
Reading a path appends its segments one after the other to the path so far.
A segment `..` takes back the one before it, and `.` stands for nothing; both
may be written with percent signs.  In file URLs a drive letter is never taken
back, and a line break or tab right behind one ends it like a slash.
-/

namespace MarkupHarden.Url

/-- How the part of a URL behind its scheme is read. -/
inductive SchemeKind where
  | file
  | special
  | ordinary
  deriving DecidableEq, Repr

/-- In special URLs a backslash is as good as a slash. -/
def SchemeKind.isSpecial (kind : SchemeKind) : Bool :=
  kind ≠ .ordinary

def SchemeKind.separates (kind : SchemeKind) (c : Char) : Bool :=
  c = '/' || (c = '\\' && kind.isSpecial)

/-- A letter and a colon or bar. -/
def isDriveLetter : List Char → Bool
  | [letter, mark] => letter.isAlpha && (mark = ':' || mark = '|')
  | _ => false

/-- A letter and a colon. -/
def isNormalDriveLetter (segment : List Char) : Bool :=
  isDriveLetter segment && segment.getLast? = some ':'

/-- Whether the input starts with a drive letter as its first segment. -/
def startsWithDriveLetter (chars : List Char) : Bool :=
  isDriveLetter (chars.take 2) &&
    (chars.drop 2).head?.all fun c =>
      c = '/' || c = '\\' || c = '?' || c = '#'

/-- A segment that stands for the directory above. -/
def isDoubleDot (segment : List Char) : Bool :=
  ["..", "%2e%2e", "%2e.", ".%2e"].contains
    (String.ofList (segment.map Char.toLower))

/-- A segment that stands for the directory itself. -/
def isSingleDot (segment : List Char) : Bool :=
  [".", "%2e"].contains (String.ofList (segment.map Char.toLower))

namespace Path

def endsWithSlash (path : List Char) : Bool :=
  path.getLast? = some '/'

/-- What follows the last slash. -/
def lastSegment (path : List Char) : List Char :=
  (path.reverse.takeWhile (· ≠ '/')).reverse

/-- The path up to and including its last slash. -/
def upToLastSlash (path : List Char) : List Char :=
  (path.reverse.dropWhile (· ≠ '/')).reverse

/-- The path with a slash at its end. -/
def closeSegment (path : List Char) : List Char :=
  if endsWithSlash path then path else path ++ ['/']

/-- Takes back what follows the last slash, except a drive letter. -/
def dropLastSegment (kind : SchemeKind) (path : List Char) : List Char :=
  if kind = .file && isNormalDriveLetter (lastSegment path) then path
  else upToLastSlash path

/-- Whether a path without its final slash still has a segment that may be
taken back.  A segment that starts with a drive letter may not, even where a
backslash does not separate. -/
def hasRemovableSegment (path : List Char) : Bool :=
  path.dropLast.contains '/' &&
    !startsWithDriveLetter (lastSegment path.dropLast)

/-- Goes to the directory above; `closed` tells whether a slash follows. -/
def ascend (kind : SchemeKind) (path : List Char) (closed : Bool) :
    List Char :=
  let path :=
    if endsWithSlash path && hasRemovableSegment path then path.dropLast
    else path
  let path := dropLastSegment kind path
  if closed then closeSegment path else path

/-- A segment as it is written, and whether a line break or tab stands behind
its first two characters. -/
structure Segment where
  text : List Char
  isBroken : Bool

/-- Whether a break cuts a drive letter off what follows in its segment. -/
def Segment.breaksDrive (segment : Segment) : Bool :=
  segment.isBroken && isNormalDriveLetter (segment.text.take 2) &&
    2 < segment.text.length

/-- Appends a segment; `closed` tells whether a slash follows.  The flag tells
whether the segment is a drive letter at the start. -/
def appendSegment (kind : SchemeKind) (path : List Char) (segment : Segment)
    (closed : Bool) : List Char × Bool :=
  let isBroken := kind = .file && path.length = 1 && segment.breaksDrive
  let segment := percentEncode pathSet segment.text
  let path :=
    if kind = .file && isNormalDriveLetter (path.drop 1) && !segment.isEmpty
    then path ++ ['/']
    else path
  let slash := if closed then ['/'] else []
  if isBroken then
    (path ++ segment.take 2 ++ ['/'] ++ segment.drop 2 ++ slash, false)
  else if isDoubleDot segment then (ascend kind path closed, false)
  else if isSingleDot segment then (closeSegment path, false)
  else if kind = .file && path.length = 1 && isDriveLetter segment then
    (path ++ segment.take 1 ++ [':'] ++ slash, true)
  else (path ++ segment ++ slash, false)

/-- Appends segments, between which slashes stand. -/
def appendSegments (kind : SchemeKind) :
    List Char → List Segment → List Char × Bool
  | path, [] => (path, false)
  | path, [segment] => appendSegment kind path segment false
  | path, segment :: rest =>
      let (path, drive) := appendSegment kind path segment true
      let (path, later) := appendSegments kind path rest
      (path, drive || later)

/-- Splits at the separators of a kind of URL. -/
def splitSegments (kind : SchemeKind) : List Char → List (List Char)
  | [] => [[]]
  | c :: rest =>
      if kind.separates c then [] :: splitSegments kind rest
      else
        match splitSegments kind rest with
        | [] => [[c]]
        | segment :: segments => (c :: segment) :: segments

/-- Notes which segments are broken.  `left` characters are left from the first
segment on, and `breaks` says how many are left at each break. -/
def markBreaks (breaks : List Nat) : Nat → List (List Char) → List Segment
  | _, [] => []
  | left, text :: rest =>
      { text, isBroken := breaks.any (· + 2 = left) } ::
        markBreaks breaks (left - text.length - 1) rest

/-- A path read behind what is there of it. -/
structure Reading where
  path : List Char
  /-- Whether a drive letter was found at the start. -/
  drive : Bool
  /-- The query and fragment that follow. -/
  rest : List Char

/-- Reads a path up to a query or fragment and appends it to `path`; `breaks`
says how many characters are left at each line break or tab. -/
def read (kind : SchemeKind) (breaks : List Nat) (path input : List Char) :
    Reading :=
  let text := input.takeWhile fun c => c ≠ '?' && c ≠ '#'
  let (path, drive) :=
    appendSegments kind path
      (markBreaks breaks input.length (splitSegments kind text))
  { path := if kind = .file then '/' :: path.dropWhile (· = '/') else path
    drive
    rest := input.dropWhile fun c => c ≠ '?' && c ≠ '#' }

end Path

end MarkupHarden.Url
