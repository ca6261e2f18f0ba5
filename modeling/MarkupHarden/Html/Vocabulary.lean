import MarkupHarden.Dom.Element
import MarkupHarden.Html.Token

/-!
# Classes of elements

Where an element may stand, what closes it and how the text inside it is read
depend on its name and namespace.  Names of HTML elements are in lower case.
-/

namespace MarkupHarden.Html

open Dom (Element Namespace)

/-- HTML elements without content or end tag. -/
def voidElements : List String :=
  ["area", "base", "basefont", "bgsound", "br", "col", "embed", "frame", "hr",
    "img", "input", "keygen", "link", "meta", "param", "source", "track",
    "wbr"]

def isVoid (name : String) : Bool :=
  voidElements.contains name

/-- Elements that may stand in `head`. -/
def isHeadElement (name : String) : Bool :=
  ["base", "basefont", "bgsound", "link", "meta", "title", "noscript",
    "script", "style", "template"].contains name

def isHeading (name : String) : Bool :=
  ["h1", "h2", "h3", "h4", "h5", "h6"].contains name

/-- Elements whose start tag ends an open paragraph. -/
def closesParagraph (name : String) : Bool :=
  ["address", "article", "aside", "blockquote", "center", "details", "dialog",
    "dir", "div", "dl", "fieldset", "figcaption", "figure", "footer", "form",
    "header", "hgroup", "hr", "li", "dd", "dt", "listing", "main", "menu",
    "nav", "ol", "p", "plaintext", "pre", "section", "summary", "table", "ul",
    "xmp"].contains name

/-- Elements behind which no list item is looked for. -/
def isSpecial (name : String) : Bool :=
  closesParagraph name ||
    ["applet", "body", "button", "caption", "html", "marquee", "object", "td",
      "th", "tr", "template"].contains name

/-- Special elements that nevertheless let a list item be closed. -/
def isTransparentToItems (name : String) : Bool :=
  ["address", "div", "p"].contains name

/-- Elements out of which no paragraph is closed. -/
def paragraphBoundaries : List String :=
  ["applet", "caption", "html", "table", "td", "th", "marquee", "object",
    "template", "button"]

/-- Elements out of which no anchor is closed. -/
def anchorBoundaries : List String :=
  ["table", "td", "th"]

/-- How the text inside an HTML element is read, if not as content. -/
def textModeOf? (name : String) : Option TextMode :=
  if ["script", "style", "xmp", "iframe", "noembed", "noframes"].contains name
  then some .verbatim
  else if ["textarea", "title"].contains name then some .escapable
  else if name = "plaintext" then some .endless
  else none

/-- The switch that an element sets for the text behind its start tag. -/
def textSwitch? (element : Element) : Option TextSwitch :=
  if element.ns = .html then
    (textModeOf? element.localName).map fun mode =>
      { mode, tag := element.localName }
  else none

/-- HTML elements whose text is written without escapes. -/
def writesRawText (element : Element) : Bool :=
  element.ns = .html &&
    ["style", "script", "xmp", "iframe", "noembed", "noframes",
      "plaintext"].contains element.localName

/-- Foreign elements inside which HTML content is expected. -/
def isIntegrationPoint (element : Element) : Bool :=
  match element.ns with
  | .svg => ["foreignObject", "desc", "title"].contains element.localName
  | .mathml =>
      ["annotation-xml", "mi", "mo", "mn", "ms", "mtext"].contains
        element.localName
  | .html => false

/-- Whether content of `element` is foreign. -/
def holdsForeignContent (element : Element) : Bool :=
  element.ns ≠ .html && !isIntegrationPoint element

/-- Start tags that end foreign content; `font` only does with an attribute
that sets its looks. -/
def breaksOut (name : String) (attributes : TagAttributes) : Bool :=
  if name = "font" then
    attributes.any fun pair => ["color", "face", "size"].contains pair.1
  else
    ["b", "big", "blockquote", "body", "br", "center", "code", "dd", "div",
      "dl", "dt", "em", "embed", "h1", "h2", "h3", "h4", "h5", "h6", "head",
      "hr", "i", "img", "li", "listing", "menu", "meta", "nobr", "ol", "p",
      "pre", "ruby", "s", "small", "span", "strong", "strike", "sub", "sup",
      "table", "tt", "u", "ul", "var"].contains name

/-- SVG element names that are not in lower case, by their lower-case form. -/
def svgElementNames : List (String × String) :=
  [("clippath", "clipPath"), ("foreignobject", "foreignObject"),
    ("lineargradient", "linearGradient"),
    ("radialgradient", "radialGradient"), ("textpath", "textPath"),
    ("animatemotion", "animateMotion"),
    ("animatetransform", "animateTransform"),
    ("fegaussianblur", "feGaussianBlur"), ("feoffset", "feOffset"),
    ("feblend", "feBlend"), ("fecolormatrix", "feColorMatrix"),
    ("femerge", "feMerge"), ("femergenode", "feMergeNode")]

/-- SVG attribute names that are not in lower case, by their lower-case
form. -/
def svgAttributeNames : List (String × String) :=
  [("viewbox", "viewBox"), ("preserveaspectratio", "preserveAspectRatio"),
    ("gradientunits", "gradientUnits"),
    ("gradienttransform", "gradientTransform"),
    ("patternunits", "patternUnits"),
    ("patterncontentunits", "patternContentUnits"),
    ("clippathunits", "clipPathUnits"), ("markerwidth", "markerWidth"),
    ("markerheight", "markerHeight"), ("refx", "refX"), ("refy", "refY"),
    ("textlength", "textLength"), ("stddeviation", "stdDeviation"),
    ("attributename", "attributeName")]

/-- The spelling of an element name in a namespace. -/
def elementSpelling (ns : Namespace) (name : String) : String :=
  match ns with
  | .svg => (svgElementNames.lookup name).getD name
  | .html | .mathml => name

/-- The spelling of an attribute name in a namespace. -/
def attributeSpelling (ns : Namespace) (name : String) : String :=
  match ns with
  | .svg => (svgAttributeNames.lookup name).getD name
  | .mathml => if name = "definitionurl" then "definitionURL" else name
  | .html => name

end MarkupHarden.Html
