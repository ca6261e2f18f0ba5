import MarkupHarden.Dom.Element
import MarkupHarden.Event
import MarkupHarden.Rule.ReferrerPolicy
import MarkupHarden.Rule.SchemeList
import MarkupHarden.Url.Resolver

/-!
# Rules

A rule looks at one element and may change its attributes.  Six rules are built
in; a caller can add rules of its own, which may fail.
-/

namespace MarkupHarden

open Dom (Element)

namespace Rule

/-- What all applications of rules in one traversal share. -/
structure Context where
  resolver : Url.Resolver := {}
  deriving DecidableEq, Repr

/-- What became of an element and whether the rules on it succeeded. -/
structure Outcome where
  element : Element
  fault : Option Fault := none
  events : List Event := []
  deriving DecidableEq, Repr

/-- A caller's rule.  An element that comes with a fault keeps the changes made
to it so far. -/
structure Custom where
  name : String
  apply : Context → Element → Option Fault × Element

end Rule

/-- A rule with its options. -/
inductive Rule where
  | blankTarget
  | noopener
  | httpsLinks
  | httpsForms
  | validateUri (schemes : Rule.SchemeList)
  | referrerPolicy (policy : Rule.ReferrerPolicy)
  | custom (rule : Rule.Custom)

namespace Rule

/-- The built-in rules with their default options, in the order in which they
run. -/
def builtins : List Rule :=
  [blankTarget, noopener, httpsLinks, httpsForms,
    validateUri SchemeList.default, referrerPolicy ReferrerPolicy.default]

def name : Rule → String
  | blankTarget => "blankTarget"
  | noopener => "noopener"
  | httpsLinks => "httpsLinks"
  | httpsForms => "httpsForms"
  | validateUri _ => "validateURI"
  | referrerPolicy _ => "referrerPolicy"
  | custom rule => rule.name

def isCustom : Rule → Bool
  | custom _ => true
  | _ => false

/-- The built-in rule of a name, with its default options. -/
def builtin? (name : String) : Option Rule :=
  builtins.find? fun rule => rule.name = name

/-- The place in the run order; custom rules share the last one. -/
def order : Rule → Nat
  | blankTarget => 0
  | noopener => 1
  | httpsLinks => 2
  | httpsForms => 3
  | validateUri _ => 4
  | referrerPolicy _ => 5
  | custom _ => 6

/-! ### What the built-in rules do -/

/-- Elements on which `target` chooses the window of a link. -/
def supportsTarget (element : Element) : Bool :=
  match element.ns with
  | .html => ["a", "area", "base", "form"].contains element.localName
  | .svg => element.localName = "a"
  | .mathml => false

/-- Elements on which `referrerpolicy` has an effect. -/
def supportsReferrerPolicy (element : Element) : Bool :=
  element.ns = .html &&
    ["a", "area", "iframe", "img", "link", "script"].contains
      element.localName

/-- Opens links in a new window.  Other elements with a link get a hint. -/
def setBlankTarget (element : Element) : Element :=
  let element :=
    if supportsTarget element then element.setAttribute "target" "_blank"
    else element
  if !element.hasAttribute "target" &&
      (element.hasAttribute "xlink:href" || element.hasAttribute "href") then
    element.setAttribute "xlink:show" "new"
  else element

/-- Keeps the target of an anchor from reaching back to the page. -/
def setNoopener (element : Element) : Element :=
  if element.isHtml "a" then element.setAttribute "rel" "noopener noreferrer"
  else element

/-- The `https` form of an attribute value that resolves to an `http` URL. -/
def httpsForm? (context : Context) (value : String) : Option String :=
  match context.resolver.resolve value with
  | .absolute url =>
      if url.scheme = "http" then
        (url.withSpecialScheme? "https").map Url.text
      else none
  | .relative | .invalid => none

/-- Writes the `https` form of an attribute, if it has one. -/
def upgradeAttribute (context : Context) (element : Element) (key : String) :
    Outcome :=
  match (element.attribute? key).bind (httpsForm? context) with
  | none => { element }
  | some value =>
      { element := element.setAttribute key value
        events := [.attributeUpgraded element.localName key] }

/-- Whether an attribute value may stay: it resolves to a URL of an allowed
scheme or is relative. -/
def isAllowed (context : Context) (schemes : SchemeList) (value : String) :
    Bool :=
  match context.resolver.resolve value with
  | .absolute url => schemes.allows url.scheme
  | .relative => true
  | .invalid => false

/-- Removes an attribute that may not stay. -/
def validateAttribute (context : Context) (schemes : SchemeList)
    (element : Element) (key : String) : Outcome :=
  if (element.attribute? key).all (isAllowed context schemes) then { element }
  else
    { element := (element.removeAttribute key).2
      events := [.attributeRemoved element.localName key] }

/-- The attributes that hold URLs, in the order in which they are checked. -/
def uriAttributes : List String :=
  ["href", "action", "xlink:href"]

/-- Checks several attributes, one after the other. -/
def validateAttributes (context : Context) (schemes : SchemeList) :
    Element → List String → Outcome
  | element, [] => { element }
  | element, key :: keys =>
      let first := validateAttribute context schemes element key
      let rest := validateAttributes context schemes first.element keys
      { rest with events := first.events ++ rest.events }

def setReferrerPolicy (policy : ReferrerPolicy) (element : Element) :
    Element :=
  if supportsReferrerPolicy element then
    element.setAttribute "referrerPolicy" policy.token
  else element

/-- Applies a rule to an element.  Built-in rules never fail. -/
def apply (rule : Rule) (context : Context) (element : Element) : Outcome :=
  match rule with
  | blankTarget => { element := setBlankTarget element }
  | noopener => { element := setNoopener element }
  | httpsLinks =>
      if element.isHtml "a" then upgradeAttribute context element "href"
      else { element }
  | httpsForms =>
      if element.isHtml "form" then upgradeAttribute context element "action"
      else { element }
  | validateUri schemes =>
      validateAttributes context schemes element uriAttributes
  | referrerPolicy policy => { element := setReferrerPolicy policy element }
  | custom rule =>
      let (fault, element) := rule.apply context element
      { element, fault }

end Rule

end MarkupHarden
