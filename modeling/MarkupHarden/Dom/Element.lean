import MarkupHarden.Dom.Attributes
import MarkupHarden.Text.Ascii

/-!
# Elements

An element has a local name, a namespace and an ordered attribute list.  In
the HTML namespace names and attribute keys are case-insensitive and stored in
lower case; in SVG and MathML they are kept as written.
-/

namespace MarkupHarden.Dom

/-- The namespaces that markup can put an element in. -/
inductive Namespace where
  | html
  | svg
  | mathml
  deriving DecidableEq, Repr

/-- A named node with attributes. -/
structure Element where
  localName : String
  ns : Namespace
  attributes : Attributes := []
  deriving DecidableEq, Repr

namespace Element

/-- An element without attributes; HTML names are folded to lower case. -/
def named (name : String) (ns : Namespace) : Element where
  localName :=
    match ns with
    | .html => Text.lower name
    | .svg | .mathml => name
  ns := ns

/-- An HTML element without attributes. -/
def html (name : String) : Element :=
  named name .html

/-- Whether this is the HTML element with the given lower-case name. -/
def isHtml (element : Element) (name : String) : Bool :=
  element.ns = .html && element.localName = name

/-- The key under which `element` stores the attribute `name`. -/
def attributeKey (element : Element) (name : String) : String :=
  match element.ns with
  | .html => Text.lower name
  | .svg | .mathml => name

def attribute? (element : Element) (name : String) : Option String :=
  element.attributes.find? (element.attributeKey name)

def hasAttribute (element : Element) (name : String) : Bool :=
  element.attributes.has (element.attributeKey name)

/-- Writes an attribute, in its old place when it exists. -/
def setAttribute (element : Element) (name value : String) : Element :=
  { element with
    attributes := element.attributes.update (element.attributeKey name) value }

/-- Appends an attribute unless it exists, so that of repeated attributes the
first one wins.  The flag tells whether it was appended. -/
def addAttribute (element : Element) (name value : String) : Bool × Element :=
  if element.hasAttribute name then (false, element)
  else (true, element.setAttribute name value)

/-- Removes an attribute and returns its old value. -/
def removeAttribute (element : Element) (name : String) :
    Option String × Element :=
  (element.attribute? name,
    { element with
      attributes := element.attributes.erase (element.attributeKey name) })

/-- Adds each attribute that is still missing, in order. -/
def addAttributes (element : Element) (attributes : List (String × String)) :
    Element :=
  attributes.foldl
    (fun element pair => (element.addAttribute pair.1 pair.2).2) element

end Element

end MarkupHarden.Dom
