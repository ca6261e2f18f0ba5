import MarkupHarden.Url.Host
import MarkupHarden.Url.Path

/-!
# URLs

A URL in its normal form: every component is encoded as it is written, the
scheme is in lower case and a port that is the scheme's own is left out.
-/

namespace MarkupHarden

namespace Url

/-- The part of a URL between `//` and the path. -/
structure Authority where
  username : String := ""
  password : String := ""
  host : Host
  port : Option Nat := none
  deriving DecidableEq, Repr

def Authority.text (authority : Authority) : String :=
  let credentials :=
    authority.username ++
      (if authority.password.isEmpty then "" else ":" ++ authority.password)
  let port :=
    match authority.port with
    | none => ""
    | some port => ":" ++ toString port
  (if credentials.isEmpty then "" else credentials ++ "@") ++
    authority.host.text ++ port

/-- The port that a scheme uses unless another one is given. -/
def defaultPort? (scheme : String) : Option Nat :=
  [("http", 80), ("https", 443), ("ws", 80), ("wss", 443), ("ftp", 21)].lookup
    scheme

/-- How URLs of a scheme are read. -/
def kindOfScheme (scheme : String) : SchemeKind :=
  if scheme = "file" then .file
  else if (defaultPort? scheme).isSome then .special
  else .ordinary

end Url

/-- A URL by its components. -/
structure Url where
  scheme : String
  authority : Option Url.Authority := none
  path : String := ""
  query : Option String := none
  fragment : Option String := none
  deriving DecidableEq, Repr

namespace Url

def kind (url : Url) : SchemeKind :=
  kindOfScheme url.scheme

/-- Whether nothing can be resolved against the URL: it has neither authority
nor a path that starts at a root. -/
def isOpaque (url : Url) : Bool :=
  url.authority.isNone && !url.path.startsWith '/'

/-- What stands between the scheme and the path.  A path that starts with two
slashes is kept from being read as an authority. -/
def authorityText (url : Url) : String :=
  match url.authority with
  | some authority => "//" ++ authority.text
  | none => if url.path.startsWith "//" then "/." else ""

/-- The URL as it is written. -/
def text (url : Url) : String :=
  url.scheme ++ ":" ++ url.authorityText ++ url.path ++
    (match url.query with
      | none => ""
      | some query => "?" ++ query) ++
    (match url.fragment with
      | none => ""
      | some fragment => "#" ++ fragment)

def withoutFragment (url : Url) : Url :=
  { url with fragment := none }

/-- The same URL under another special scheme.  A URL without a host cannot
take one, and the port is left out if it is the new scheme's own. -/
def withSpecialScheme? (url : Url) (scheme : String) : Option Url :=
  match url.authority with
  | none => none
  | some authority =>
      if authority.host.isEmpty then none
      else
        some { url with
          scheme
          authority := some { authority with
            port :=
              if authority.port = defaultPort? scheme then none
              else authority.port } }

theorem scheme_of_withSpecialScheme? {url changed : Url} {scheme : String}
    (isChanged : url.withSpecialScheme? scheme = some changed) :
    changed.scheme = scheme := by
  unfold withSpecialScheme? at isChanged
  split at isChanged
  · contradiction
  · split at isChanged
    · contradiction
    · cases isChanged
      rfl

end Url

end MarkupHarden
