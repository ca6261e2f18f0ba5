import MarkupHarden.Harden.Input
import MarkupHarden.Harden.Options
import MarkupHarden.Harden.WorkingTree

/-!
# Results

A finished working tree is handed over as it is or written as markup.  A host
that cannot parse safely hands the input back.
-/

namespace MarkupHarden

/-- What a call hands back. -/
inductive Hardened where
  | markup (text : String)
  /-- A tree, unless none could be built. -/
  | tree (tree : Option WorkingTree)
  /-- The input as it was given. -/
  | untouched (input : Input)

namespace Hardened

/-- The result as markup, input that was handed back as text included. -/
def markup? : Hardened → Option String
  | .markup text => some text
  | .untouched (.markup text) => some text
  | .untouched (.value (.string text)) => some text
  | .tree _ | .untouched _ => none

/-- The part of the root that is written: all of `html`, the content of
`body`. -/
def scopeOf (wholeDocument : Bool) : Html.Scope :=
  if wholeDocument then .outer else .inner

/-- Hands a finished tree over in the form that the options ask for. -/
def ofTree (serializer : Html.MarkupSerializer) (options : Options)
    (working : Option WorkingTree) : Hardened :=
  if options.returnTree then .tree working
  else
    match working with
    | none => .markup ""
    | some working =>
        .markup
          (serializer.serialize working.document working.root
            (scopeOf options.wholeDocument))

end Hardened

end MarkupHarden
