import MarkupHarden.Fault
import MarkupHarden.Text.Ascii
import MarkupHarden.Text.Blank

/-!
# Referrer policies

The values of the attribute `referrerpolicy`.  A token is read up to case and
blanks around it.
-/

namespace MarkupHarden.Rule

/-- What a browser tells a link's target about where it was followed. -/
inductive ReferrerPolicy where
  /-- The empty token, which leaves the choice to the document. -/
  | unset
  | noReferrer
  | noReferrerWhenDowngrade
  | origin
  | originWhenCrossOrigin
  | sameOrigin
  | strictOrigin
  | strictOriginWhenCrossOrigin
  | unsafeUrl
  deriving DecidableEq, Repr

namespace ReferrerPolicy

/-- The policy that is used when no other is given. -/
def default : ReferrerPolicy := .noReferrer

def all : List ReferrerPolicy :=
  [unset, noReferrer, noReferrerWhenDowngrade, origin, originWhenCrossOrigin,
    sameOrigin, strictOrigin, strictOriginWhenCrossOrigin, unsafeUrl]

def token : ReferrerPolicy → String
  | unset => ""
  | noReferrer => "no-referrer"
  | noReferrerWhenDowngrade => "no-referrer-when-downgrade"
  | origin => "origin"
  | originWhenCrossOrigin => "origin-when-cross-origin"
  | sameOrigin => "same-origin"
  | strictOrigin => "strict-origin"
  | strictOriginWhenCrossOrigin => "strict-origin-when-cross-origin"
  | unsafeUrl => "unsafe-url"

/-- The policy that a token names. -/
def ofToken? (text : String) : Option ReferrerPolicy :=
  all.find? fun policy => Text.sameIgnoringCase policy.token (Text.trim text)

def ofToken (text : String) : Except Fault ReferrerPolicy :=
  match ofToken? text with
  | some policy => .ok policy
  | none => .error (.unknownPolicy text)

theorem mem_all (policy : ReferrerPolicy) : policy ∈ all := by
  cases policy <;> decide

end ReferrerPolicy

end MarkupHarden.Rule
