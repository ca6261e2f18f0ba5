import MarkupHarden.Fault
import MarkupHarden.Url.Parse

/-!
# Resolving attribute values

An attribute value is resolved against an optional base URL.  Without a base a
relative reference stays relative; it then has no scheme.
-/

namespace MarkupHarden.Url

/-- What an attribute value turns out to be. -/
inductive Resolution where
  | absolute (url : Url)
  /-- A relative reference without a base to resolve it against. -/
  | relative
  | invalid
  deriving DecidableEq, Repr

/-- Resolves values against a base, if there is one. -/
structure Resolver where
  base : Option Url := none
  deriving DecidableEq, Repr

namespace Resolver

/-- The resolver for a base given as text.  An opaque URL is no base. -/
def ofBase (text : String) : Except Fault Resolver :=
  match Url.parse none text with
  | .error reason => .error (.unparsableBase text reason)
  | .ok url =>
      if url.isOpaque then .error (.opaqueBase text)
      else .ok { base := some url }

def resolve (resolver : Resolver) (value : String) : Resolution :=
  match Url.parse resolver.base value with
  | .ok url => .absolute url
  | .error .relativeWithoutBase | .error .relativeToOpaqueBase => .relative
  | .error _ => .invalid

end Resolver

end MarkupHarden.Url
