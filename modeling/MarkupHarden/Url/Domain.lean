import MarkupHarden.Text.Composition
import MarkupHarden.Url.DomainMapping
import MarkupHarden.Url.Fault
import MarkupHarden.Url.LabelRule
import MarkupHarden.Url.Punycode

/-!
# Domain names

A domain name is brought into its ASCII form: its characters are mapped and
composed, and each label with characters beyond ASCII is written in Punycode
behind the marker `xn--`.  Labels that carry the marker already must decode to
a label that the mapping leaves alone.
-/

namespace MarkupHarden.Url

/-- ASCII characters that no domain name may contain. -/
def isForbiddenInDomain (c : Char) : Bool :=
  c.toNat ≤ 0x20 || c.toNat = 0x7F || "%#/:<>?@[\\]^|".toList.contains c

def isAscii (c : Char) : Bool :=
  c.toNat < 0x80

/-- Whether a label of mapped characters may stand in a domain name. -/
def isLabel (label : List Char) : Bool :=
  !label.any isForbiddenInDomain && !label.head?.any Text.isMark &&
    joinersFit [] label

/-- Whether a label decoded from its marked form may stand in a domain name. -/
def isDecodedLabel (label : List Char) : Bool :=
  label.any (!isAscii ·) && isLabel label &&
    label.all (fun c => mapDomainChar? c = some [c]) &&
    Text.compose label = label

def labelMarker : List Char := "xn--".toList

/-- The longest label that is written in Punycode. -/
def longestEncoded : Nat := 1000

/-- The longest Punycode that is read. -/
def longestDecoded : Nat := 2000

/-- The text that a label of mapped characters stands for. -/
def labelText? (label : List Char) : Option (List Char) :=
  if labelMarker.isPrefixOf label then
    let code := label.drop labelMarker.length
    if longestDecoded < code.length || !code.all isAscii then none
    else (Punycode.decode? code).filter isDecodedLabel
  else if !isLabel label then none
  else if label.all isAscii || label.length ≤ longestEncoded then some label
  else none

/-- The ASCII form of the text of a label. -/
def labelToAscii (text : List Char) : List Char :=
  if text.all isAscii then text else labelMarker ++ Punycode.encode text

/-- Splits at every character for which `isSeparator` holds. -/
def splitEvery (isSeparator : Char → Bool) : List Char → List (List Char)
  | [] => [[]]
  | c :: rest =>
      if isSeparator c then [] :: splitEvery isSeparator rest
      else
        match splitEvery isSeparator rest with
        | [] => [[c]]
        | part :: parts => (c :: part) :: parts

/-- The ASCII form of a domain name. -/
def domainToAscii (chars : List Char) : Except ParseFault (List Char) :=
  match chars.mapM mapDomainChar? with
  | none => .error .invalidDomainName
  | some mapped =>
      let mapped := mapped.flatten
      let composed :=
        if mapped.all isAscii then mapped else Text.compose mapped
      match (splitEvery (· = '.') composed).mapM labelText? with
      | none => .error .invalidDomainName
      | some texts =>
          if texts.any (·.any runsLeft) && !texts.all keepsDirection then
            .error .invalidDomainName
          else .ok (List.intercalate ['.'] (texts.map labelToAscii))

end MarkupHarden.Url
