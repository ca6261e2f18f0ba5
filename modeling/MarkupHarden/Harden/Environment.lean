import MarkupHarden.Html.Parser

/-!
# Environments

Markup is hardened only on a host that turns markup into trees safely.  A host
that does not may offer a static form of markup instead.
-/

namespace MarkupHarden

/-- What a host can do. -/
structure Environment where
  canParseSafely : Bool
  /-- Turns markup into an inert form. -/
  staticForm : Option (String → String) := none

namespace Environment

def capable : Environment where
  canParseSafely := true

def incapable : Environment where
  canParseSafely := false

/-- A small complete document that a usable parser understands. -/
def canary : String :=
  "<!doctype html><html><head><title>probe</title></head>" ++
    "<body><p>probe</p></body></html>"

/-- Whether a parser finds the document element and the body of the canary. -/
def probe (parser : Html.MarkupParser) : Logged Bool := do
  match ← parser.parseDocument canary with
  | .ok document =>
      pure (document.documentElement?.isSome && document.body?.isSome)
  | .error fault => do
      Logged.report (.canaryFailed fault)
      pure false

/-- The environment in which the bundled parser is used. -/
def detected : Environment where
  canParseSafely := (probe (Html.HtmlParser.toMarkupParser {})).value

end Environment

end MarkupHarden
