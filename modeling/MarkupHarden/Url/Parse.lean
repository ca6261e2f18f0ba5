import MarkupHarden.Text.Ascii
import MarkupHarden.Text.Blank
import MarkupHarden.Url.Basic

/-!
# Reading URLs

A text is read as a URL of its own or, with a base, as a reference to be
resolved.  Blanks and control characters at its ends and line breaks anywhere
do not count, except behind drive letters.  `Url.parse` is the entry point; the
functions before it each read one part and return what follows.
-/

namespace MarkupHarden.Url

def isBreak (c : Char) : Bool :=
  c = '\t' || c = '\n' || c = '\x0d'

/-- The characters of a text that count, and how many of them are left at each
break. -/
structure Significant where
  chars : List Char := []
  size : Nat := 0
  breaks : List Nat := []

namespace Significant

def addFront (c : Char) (text : Significant) : Significant :=
  if isBreak c then { text with breaks := text.size :: text.breaks }
  else { text with chars := c :: text.chars, size := text.size + 1 }

/-- What counts in a text that is read as a URL. -/
def ofText (text : String) : Significant :=
  (Text.trimBoth (fun c => c.toNat ≤ 0x20) text.toList).foldr addFront {}

end Significant

/-- Splits off a scheme and its colon. -/
def splitScheme? : List Char → Option (String × List Char)
  | [] => none
  | first :: rest =>
      let isSchemeChar (c : Char) : Bool :=
        c.isAlphanum || c = '+' || c = '-' || c = '.'
      if !first.isAlpha then none
      else
        match rest.dropWhile isSchemeChar with
        | ':' :: after =>
            some (Text.lower (String.ofList
              (first :: rest.takeWhile isSchemeChar)), after)
        | _ => none

def encoded (set : EncodeSet) (chars : List Char) : String :=
  String.ofList (percentEncode set chars)

/-- Reads a fragment, if one is left, into the URL. -/
def withFragmentFrom (url : Url) : List Char → Url
  | '#' :: rest => { url with fragment := some (encoded fragmentSet rest) }
  | _ => { url with fragment := none }

/-- Reads a query and a fragment, if they are left, into the URL. -/
def withQueryFrom (url : Url) : List Char → Url
  | '?' :: rest =>
      let set := if url.kind.isSpecial then specialQuerySet else querySet
      withFragmentFrom
        { url with query := some (encoded set (rest.takeWhile (· ≠ '#'))) }
        (rest.dropWhile (· ≠ '#'))
  | rest => withFragmentFrom { url with query := none } rest

/-- Reads a path with breaks behind the one given, then a query and a
fragment. -/
def withBrokenPathFrom (breaks : List Nat) (url : Url)
    (path input : List Char) : Url :=
  let reading := Path.read url.kind breaks path input
  withQueryFrom { url with path := String.ofList reading.path } reading.rest

/-- Reads a path behind the one given, then a query and a fragment. -/
def withPathFrom (url : Url) (path input : List Char) : Url :=
  withBrokenPathFrom [] url path input

/-! ### Authorities -/

/-- Whether a character ends the authority. -/
def endsAuthority (kind : SchemeKind) (c : Char) : Bool :=
  kind.separates c || c = '?' || c = '#'

/-- Splits at the last occurrence of a character. -/
def splitLast? (mark : Char) (chars : List Char) :
    Option (List Char × List Char) :=
  if chars.contains mark then
    let after := (chars.reverse.takeWhile (· ≠ mark)).reverse
    some (chars.take (chars.length - after.length - 1), after)
  else none

/-- The encoded user name and password. -/
def readCredentials (chars : List Char) : String × String :=
  (encoded userInfoSet (chars.takeWhile (· ≠ ':')),
    encoded userInfoSet ((chars.dropWhile (· ≠ ':')).drop 1))

/-- Splits off the credentials in front of the last at sign.  An at sign right
at the start needs a host behind it. -/
def splitCredentials (kind : SchemeKind) (input : List Char) :
    Except ParseFault ((String × String) × List Char) :=
  let authority := input.takeWhile (!endsAuthority kind ·)
  let rest := input.dropWhile (!endsAuthority kind ·)
  match splitLast? '@' authority with
  | none => .ok (("", ""), input)
  | some ([], []) =>
      if rest.isEmpty then .ok (("", ""), []) else .error .emptyHost
  | some (credentials, host) => .ok (readCredentials credentials, host ++ rest)

/-- Splits off the host, which ends at a colon outside brackets or with the
authority. -/
def splitHost (kind : SchemeKind) : Bool → List Char → List Char × List Char
  | _, [] => ([], [])
  | inBrackets, c :: rest =>
      if (c = ':' && !inBrackets) || endsAuthority kind c then ([], c :: rest)
      else
        let (host, rest) :=
          splitHost kind (c = '[' || (inBrackets && c ≠ ']')) rest
        (c :: host, rest)

/-- Reads the digits of a port behind its colon. -/
def readPort (scheme : String) (input : List Char) :
    Except ParseFault (Option Nat × List Char) :=
  let digits := input.takeWhile Char.isDigit
  let rest := input.dropWhile Char.isDigit
  let port? := Text.numberOf? 10 digits
  if port?.any (· > 65535) then .error .invalidPort
  else if !rest.head?.all fun c =>
      c = '/' || c = '\\' || c = '?' || c = '#' then .error .invalidPort
  else .ok (if port? = defaultPort? scheme then none else port?, rest)

/-- Reads a host and a port. -/
def readHostAndPort (kind : SchemeKind) (scheme : String)
    (input : List Char) :
    Except ParseFault ((Host × Option Nat) × List Char) := do
  let (text, rest) := splitHost kind false input
  if kind.isSpecial && text.isEmpty then .error .emptyHost
  let host ← if kind.isSpecial then Host.parse text else Host.parseOpaque text
  match rest with
  | ':' :: portText =>
      if host.isEmpty then .error .emptyHost
      let (port, rest) ← readPort scheme portText
      .ok ((host, port), rest)
  | _ => .ok ((host, none), rest)

/-- Reads the path behind an authority, which starts at a root. -/
def withRootedPathFrom (url : Url) (input : List Char) : Url :=
  if url.kind.isSpecial then
    match input with
    | [] => withPathFrom url ['/'] input
    | c :: rest =>
        withPathFrom url ['/'] (if url.kind.separates c then rest else input)
  else
    match input with
    | [] | '/' :: _ | '?' :: _ | '#' :: _ => withPathFrom url [] input
    | _ => withPathFrom url ['/'] input

/-- Reads everything behind `//`. -/
def readAuthority (scheme : String) (input : List Char) :
    Except ParseFault Url := do
  let kind := kindOfScheme scheme
  let ((username, password), rest) ← splitCredentials kind input
  let ((host, port), rest) ← readHostAndPort kind scheme rest
  if host.isEmpty && !(username.isEmpty && password.isEmpty) then
    .error .emptyHost
  .ok (withRootedPathFrom
    { scheme
      authority := some { username, password, host, port } } rest)

/-! ### References -/

def isSlash (c : Char) : Bool :=
  c = '/' || c = '\\'

/-- Resolves a reference against a base that is neither opaque nor a file. -/
def resolveReference (base : Url) (input : List Char) :
    Except ParseFault Url :=
  match input with
  | [] => .ok base.withoutFragment
  | '?' :: _ => .ok (withQueryFrom base input)
  | '#' :: _ => .ok (withFragmentFrom base input)
  | first :: rest =>
      if isSlash first then
        match rest with
        | second :: further =>
            if isSlash second then
              readAuthority base.scheme
                (if first = '/' && second = '/' then further
                else input.dropWhile isSlash)
            else .ok (withPathFrom base ['/'] rest)
        | [] => .ok (withPathFrom base ['/'] rest)
      else
        let path := Path.upToLastSlash base.path.toList
        .ok (withPathFrom base (if path.isEmpty then ['/'] else path) input)

/-! ### Files -/

/-- The file URL with the given host and no path yet. -/
def fileUrl (host : Host) : Url where
  scheme := "file"
  authority := some { host }

/-- Reads a file URL behind its two slashes.  A drive letter is no host, and
`localhost` is the same as no host.  A drive letter at the start of the path
makes the host pointless. -/
def readFileHost (breaks : List Nat) (input : List Char) :
    Except ParseFault Url := do
  let endsHost (c : Char) : Bool := isSlash c || c = '?' || c = '#'
  let text := input.takeWhile (!endsHost ·)
  let rest := input.dropWhile (!endsHost ·)
  if isDriveLetter text then
    .ok (withBrokenPathFrom breaks (fileUrl (.named "")) ['/'] input)
  else if text.isEmpty then
    .ok (withBrokenPathFrom breaks (fileUrl (.named "")) ['/'] rest)
  else
    let host ← Host.parse text
    if host = .named "localhost" then
      .ok (withBrokenPathFrom breaks (fileUrl (.named "")) ['/'] rest)
    else
      let input := if rest.head?.any isSlash then rest.drop 1 else rest
      let host :=
        if (Path.read .file breaks ['/'] input).drive then .named "" else host
      .ok (withBrokenPathFrom breaks (fileUrl host) ['/'] input)

/-- The first segment of a path that starts at a root. -/
def firstSegment (path : List Char) : List Char :=
  (path.drop 1).takeWhile (· ≠ '/')

/-- Reads a file URL whose path starts with one slash.  The drive letter or else
the host is taken over from the base. -/
def readFileRoot (breaks : List Nat) (base : Option Url)
    (input : List Char) : Url :=
  let plain := withBrokenPathFrom breaks (fileUrl (.named "")) [] input
  if startsWithDriveLetter (input.drop 1) then plain
  else
    match base with
    | none => plain
    | some base =>
        let segment := firstSegment base.path.toList
        if isNormalDriveLetter segment then
          withBrokenPathFrom breaks (fileUrl (.named "")) ('/' :: segment)
            input
        else
          withBrokenPathFrom breaks
            (fileUrl ((base.authority.map Authority.host).getD (.named "")))
            [] input

/-- Reads a file URL behind its scheme, or a reference to a file. -/
def readFile (breaks : List Nat) (base : Option Url) (input : List Char) :
    Except ParseFault Url :=
  match input, base with
  | first :: rest, _ =>
      if isSlash first then
        match rest with
        | second :: further =>
            if isSlash second then readFileHost breaks further
            else .ok (readFileRoot breaks base input)
        | [] => .ok (readFileRoot breaks base input)
      else
        match base with
        | none =>
            .ok (withBrokenPathFrom breaks (fileUrl (.named "")) ['/'] input)
        | some base =>
            if first = '?' then .ok (withQueryFrom base input)
            else if first = '#' then .ok (withFragmentFrom base input)
            else if startsWithDriveLetter input then
              .ok (withBrokenPathFrom breaks (fileUrl (.named "")) ['/'] input)
            else
              .ok (withBrokenPathFrom breaks base
                (Path.dropLastSegment .file base.path.toList) input)
  | [], some base => .ok base.withoutFragment
  | [], none => .ok (withBrokenPathFrom breaks (fileUrl (.named "")) ['/'] [])

/-! ### Whole URLs -/

/-- Reads what follows a scheme that is not special. -/
def readOrdinary (scheme : String) (input : List Char) :
    Except ParseFault Url :=
  match input with
  | '/' :: '/' :: rest => readAuthority scheme rest
  | '/' :: rest =>
      .ok (withPathFrom { scheme, authority := none } ['/'] rest)
  | _ =>
      let path := input.takeWhile fun c => c ≠ '?' && c ≠ '#'
      .ok (withQueryFrom
        { scheme, authority := none, path := encoded [] path }
        (input.dropWhile fun c => c ≠ '?' && c ≠ '#'))

/-- Reads what follows a special scheme.  Without two slashes it is a reference
to a base of the same scheme, if there is one. -/
def readSpecial (base : Option Url) (scheme : String) (input : List Char) :
    Except ParseFault Url :=
  let absolute := readAuthority scheme (input.dropWhile isSlash)
  match base with
  | none => absolute
  | some base =>
      if (input.takeWhile isSlash).length < 2 && base.scheme = scheme then
        resolveReference base input
      else absolute

/-- Reads a text as a URL, resolving it against a base if it has no scheme of
its own. -/
def parse (base : Option Url) (text : String) : Except ParseFault Url :=
  let { chars := input, breaks, .. } := Significant.ofText text
  match splitScheme? input with
  | some (scheme, rest) =>
      match kindOfScheme scheme with
      | .file => readFile breaks (base.filter (·.scheme = "file")) rest
      | .special => readSpecial base scheme rest
      | .ordinary => readOrdinary scheme rest
  | none =>
      match base with
      | none => .error .relativeWithoutBase
      | some base =>
          if input.head? = some '#' then .ok (withFragmentFrom base input)
          else if base.isOpaque then .error .relativeToOpaqueBase
          else if base.kind = .file then readFile breaks (some base) input
          else resolveReference base input

end MarkupHarden.Url
