import MarkupHarden.Dom.Mutation
import MarkupHarden.Html.Lexer
import MarkupHarden.Html.Vocabulary

/-!
# Building trees from tokens

A builder adds one token after the other to a document.  It keeps the open
elements, innermost first; the outermost one is never closed by a tag.  Before
the body is reached, `html`, `head` and `body` are supplied where the markup
leaves them out.  Mis-nested end tags close everything up to the nearest open
element of their name.

Building ends early when a node is refused, or when a document nests deeper
than its limit; inside a fragment the limit keeps deeper elements closed, so
that what follows them becomes their sibling.
-/

namespace MarkupHarden.Html

open Dom (Document Element Namespace NodeData NodeId Refusal)

/-- How far a document has been read. -/
inductive InsertionMode where
  | beforeHtml
  | beforeHead
  | inHead
  | afterHead
  | inBody
  deriving DecidableEq, Repr

/-- A document under construction. -/
structure Builder where
  document : Document
  mode : InsertionMode
  html : Option NodeId := none
  head : Option NodeId := none
  body : Option NodeId := none
  /-- The open elements, innermost first. -/
  openNodes : List NodeId := []
  maxDepth : Nat
  /-- Whether the content of one element is built rather than a document. -/
  fragment : Bool := false
  tooDeep : Bool := false
  refusal : Option Refusal := none
  /-- End tags without a matching open element, in order. -/
  strayEndTags : List String := []
  deriving DecidableEq, Repr

namespace Builder

/-- A builder for a whole document. -/
def forDocument (maxDepth : Nat) : Builder where
  document := .empty
  mode := .beforeHtml
  maxDepth := maxDepth

/-- A builder for the content of `context`. -/
def forFragment (document : Document) (context : NodeId) (maxDepth : Nat) :
    Builder where
  document := document
  mode := .inBody
  openNodes := [context]
  maxDepth := maxDepth
  fragment := true

/-! ### Reading the open elements -/

def current? (builder : Builder) : Option NodeId :=
  builder.openNodes.head?

def currentElement? (builder : Builder) : Option Element :=
  builder.current?.bind builder.document.element?

def inForeignContent (builder : Builder) : Bool :=
  builder.currentElement?.any holdsForeignContent

/-- What an open element means to a search from the inside out. -/
inductive Verdict where
  | target
  | boundary
  | pass
  deriving DecidableEq, Repr

/-- The open elements that remain when the innermost target is closed together
with everything inside it.  The search ends at a boundary and does not consider
the outermost element. -/
def closeTarget? (judge : NodeId → Verdict) :
    List NodeId → Option (List NodeId)
  | [] | [_] => none
  | node :: rest =>
      match judge node with
      | .target => some rest
      | .boundary => none
      | .pass => closeTarget? judge rest

/-- Looks for an element by name, ignoring case, up to HTML boundaries. -/
def judgeName (document : Document) (name : String) (boundaries : List String)
    (node : NodeId) : Verdict :=
  match document.element? node with
  | none => .pass
  | some element =>
      if Text.sameIgnoringCase element.localName name then .target
      else if element.ns = .html && boundaries.contains element.localName then
        .boundary
      else .pass

/-- Looks for a list item, up to special elements that end the search. -/
def judgeItem (document : Document) (names : List String) (node : NodeId) :
    Verdict :=
  match document.element? node with
  | none => .pass
  | some element =>
      if element.ns ≠ .html then .pass
      else if names.contains element.localName then .target
      else if !isTransparentToItems element.localName &&
          isSpecial element.localName then .boundary
      else .pass

/-- The open elements left when the nearest open `name` is closed. -/
def closing? (builder : Builder) (name : String) (boundaries : List String) :
    Option (List NodeId) :=
  closeTarget? (judgeName builder.document name boundaries) builder.openNodes

/-! ### Closing elements -/

/-- Closes the nearest open `name`, if one is found before a boundary. -/
def closeNamed (builder : Builder) (name : String) (boundaries : List String) :
    Builder :=
  { builder with
    openNodes := (builder.closing? name boundaries).getD builder.openNodes }

def closeParagraph (builder : Builder) : Builder :=
  builder.closeNamed "p" paragraphBoundaries

/-- Closes the nearest open list item of one of the names. -/
def closeItem (builder : Builder) (names : List String) : Builder :=
  { builder with
    openNodes :=
      (closeTarget? (judgeItem builder.document names) builder.openNodes).getD
        builder.openNodes }

/-- Closes the innermost element if it is one of the named HTML elements and
not the outermost one. -/
def closeCurrent (builder : Builder) (names : List String) : Builder :=
  match builder.openNodes with
  | node :: outer :: rest =>
      if (builder.document.element? node).any fun element =>
          element.ns = .html && names.contains element.localName then
        { builder with openNodes := outer :: rest }
      else builder
  | _ => builder

/-- The open elements without the foreign ones at the inside. -/
def leaveForeign (document : Document) : List NodeId → List NodeId
  | node :: outer :: rest =>
      if (document.element? node).any holdsForeignContent then
        leaveForeign document (outer :: rest)
      else node :: outer :: rest
  | nodes => nodes

/-! ### Adding nodes -/

/-- Creates a node under `parent`. -/
def attach (builder : Builder) (parent : NodeId) (data : NodeData) :
    NodeId × Builder :=
  let (outcome, document) := builder.document.appendNew parent data
  match outcome with
  | .ok id => (id, { builder with document })
  | .error refusal =>
      (builder.document.nodeCount,
        { builder with document, refusal := builder.refusal.or refusal })

/-- Appends text under a node, if there is one. -/
def attachText (builder : Builder) (parent : Option NodeId) (text : String) :
    Builder :=
  match parent with
  | none => builder
  | some parent =>
      let (outcome, document) := builder.document.appendText parent text
      match outcome with
      | .ok () => { builder with document }
      | .error refusal =>
          { builder with document, refusal := builder.refusal.or refusal }

/-- Appends a comment under a node, if there is one. -/
def attachComment (builder : Builder) (parent : Option NodeId)
    (text : String) : Builder :=
  match parent with
  | none => builder
  | some parent => (builder.attach parent (.comment text)).2

/-- Opens an element unless the limit is reached.  The flag tells whether it
was opened. -/
def openNode (builder : Builder) (node : NodeId) : Bool × Builder :=
  if builder.openNodes.length ≥ builder.maxDepth then
    (false, { builder with tooDeep := true })
  else (true, { builder with openNodes := node :: builder.openNodes })

/-- Adds an HTML element and opens it unless it is void.  Nothing is added
without a parent. -/
def insertHtml (builder : Builder) (parent : Option NodeId) (name : String)
    (attributes : TagAttributes) : Option TextSwitch × Builder :=
  match parent with
  | none => (none, builder)
  | some parent =>
      let element := (Element.html name).addAttributes attributes
      let (node, builder) := builder.attach parent (.element element)
      if isVoid name then (none, builder)
      else
        let (opened, builder) := builder.openNode node
        (if opened then textSwitch? element else none, builder)

/-- Adds a foreign element and opens it unless its tag closes itself. -/
def insertForeign (builder : Builder) (name : String)
    (attributes : TagAttributes) (ns : Namespace) (selfClosing : Bool) :
    Builder :=
  let element :=
    (Element.named (elementSpelling ns name) ns).addAttributes
      (attributes.map fun pair => (attributeSpelling ns pair.1, pair.2))
  let parent := builder.current?.getD Document.root
  let (node, builder) := builder.attach parent (.element element)
  if selfClosing then builder else (builder.openNode node).2

/-- Adds the attributes that an element still lacks. -/
def mergeAttributes (builder : Builder) (target : Option NodeId)
    (attributes : TagAttributes) : Builder :=
  match target with
  | none => builder
  | some node =>
      match builder.document.element? node with
      | none => builder
      | some element =>
          { builder with
            document :=
              builder.document.setData node
                (.element (element.addAttributes attributes)) }

/-! ### Supplying the outer elements -/

/-- Supplies `html`, gives it the attributes and goes on before the head. -/
def startHtml (builder : Builder) (attributes : TagAttributes) : Builder :=
  let builder :=
    match builder.html with
    | some _ => builder
    | none =>
        let (html, builder) :=
          builder.attach Document.root (.element (.html "html"))
        { builder with html := some html }
  { builder.mergeAttributes builder.html attributes with mode := .beforeHead }

/-- Creates the named element under `html`, if there is one. -/
def attachUnderHtml (builder : Builder) (name : String) : NodeId × Builder :=
  match builder.html with
  | some html => builder.attach html (.element (.html name))
  | none =>
      let (node, document) := builder.document.create (.element (.html name))
      (node, { builder with document })

/-- Supplies `head`, gives it the attributes and goes on inside it. -/
def startHead (builder : Builder) (attributes : TagAttributes) : Builder :=
  let builder := if builder.html.isNone then builder.startHtml [] else builder
  let builder :=
    match builder.head with
    | some _ => builder
    | none =>
        let (head, builder) := builder.attachUnderHtml "head"
        { builder with head := some head }
  let builder := builder.mergeAttributes builder.head attributes
  { builder with openNodes := builder.head.toList, mode := .inHead }

/-- Supplies `body`, gives it the attributes and goes on inside it. -/
def startBody (builder : Builder) (attributes : TagAttributes) : Builder :=
  let builder := if builder.head.isNone then builder.startHead [] else builder
  let builder :=
    match builder.body with
    | some _ => builder
    | none =>
        let (body, builder) := builder.attachUnderHtml "body"
        { builder with body := some body }
  let builder := builder.mergeAttributes builder.body attributes
  if builder.mode = .inBody then builder
  else { builder with openNodes := builder.body.toList, mode := .inBody }

/-! ### Content of the body -/

/-- What a start tag closes before its element is added. -/
def closeImplied (builder : Builder) (name : String) : Builder :=
  let builder :=
    if name = "a" then builder.closeNamed "a" anchorBoundaries
    else if name = "li" then builder.closeItem ["li"]
    else if name = "dd" || name = "dt" then builder.closeItem ["dd", "dt"]
    else if name = "option" then builder.closeCurrent ["option"]
    else if name = "optgroup" then
      builder.closeCurrent ["option", "optgroup"]
    else if isHeading name then
      builder.closeParagraph.closeCurrent ["h1", "h2", "h3", "h4", "h5", "h6"]
    else builder
  if closesParagraph name then builder.closeParagraph else builder

/-- Handles a start tag where HTML content is expected. -/
def htmlStartTag (builder : Builder) (name : String)
    (attributes : TagAttributes) (selfClosing : Bool) :
    Option TextSwitch × Builder :=
  if name = "html" then
    (none,
      if builder.fragment then builder
      else builder.mergeAttributes builder.html attributes)
  else if name = "body" then
    (none,
      if builder.fragment then builder
      else builder.mergeAttributes builder.body attributes)
  else if name = "head" || name = "frameset" then (none, builder)
  else if name = "svg" then
    (none, builder.insertForeign name attributes .svg selfClosing)
  else if name = "math" then
    (none, builder.insertForeign name attributes .mathml selfClosing)
  else
    let builder := builder.closeImplied name
    builder.insertHtml builder.current? name attributes

/-- Handles a start tag inside the body. -/
def bodyStartTag (builder : Builder) (name : String)
    (attributes : TagAttributes) (selfClosing : Bool) :
    Option TextSwitch × Builder :=
  if builder.inForeignContent then
    if breaksOut name attributes then
      let builder :=
        { builder with
          openNodes := leaveForeign builder.document builder.openNodes }
      builder.htmlStartTag name attributes selfClosing
    else
      let ns := (builder.currentElement?.map Element.ns).getD .html
      (none, builder.insertForeign name attributes ns selfClosing)
  else builder.htmlStartTag name attributes selfClosing

/-- Handles an end tag inside the body.  `</br>` stands for `<br>`, and `</p>`
without an open paragraph for an empty one. -/
def bodyEndTag (builder : Builder) (name : String) : Builder :=
  if name = "body" || name = "html" then builder
  else if name = "br" then (builder.insertHtml builder.current? "br" []).2
  else if name = "p" && (builder.closing? "p" paragraphBoundaries).isNone then
    (builder.insertHtml builder.current? "p" []).2.closeCurrent ["p"]
  else
    match builder.closing? name [] with
    | some remaining => { builder with openNodes := remaining }
    | none => { builder with strayEndTags := builder.strayEndTags ++ [name] }

/-! ### Tokens by insertion mode -/

/-- Whether a text consists of ASCII white space only. -/
def isWhitespace (text : String) : Bool :=
  text.toList.all Text.isSpace

def inBody (builder : Builder) : Token → Option TextSwitch × Builder
  | .text text => (none, builder.attachText builder.current? text)
  | .comment text => (none, builder.attachComment builder.current? text)
  | .doctype _ => (none, builder)
  | .startTag name attributes selfClosing =>
      builder.bodyStartTag name attributes selfClosing
  | .endTag name => (none, builder.bodyEndTag name)

/-- Behind the head a body is supplied for everything that belongs to one. -/
def afterHead (builder : Builder) (token : Token) :
    Option TextSwitch × Builder :=
  let supply := fun () => (builder.startBody []).inBody token
  match token with
  | .text text =>
      if isWhitespace text then (none, builder.attachText builder.html text)
      else supply ()
  | .comment text => (none, builder.attachComment builder.html text)
  | .doctype _ => (none, builder)
  | .startTag name attributes _ =>
      if name = "html" then
        (none, builder.mergeAttributes builder.html attributes)
      else if name = "body" then (none, builder.startBody attributes)
      else if isHeadElement name && name ≠ "noscript" then
        let builder :=
          { builder with openNodes := builder.head.toList, mode := .inHead }
        builder.insertHtml builder.head name attributes
      else supply ()
  | .endTag _ => (none, builder)

/-- Inside the head, everything that cannot stand there ends it. -/
def inHead (builder : Builder) (token : Token) :
    Option TextSwitch × Builder :=
  let leave := fun () =>
    { builder with openNodes := [], mode := .afterHead }.afterHead token
  match token with
  | .text text =>
      if builder.current?.isSome && builder.current? ≠ builder.head then
        (none, builder.attachText builder.current? text)
      else if isWhitespace text then
        (none, builder.attachText builder.head text)
      else leave ()
  | .comment text => (none, builder.attachComment builder.head text)
  | .doctype _ => (none, builder)
  | .startTag name attributes _ =>
      if isHeadElement name then
        builder.insertHtml builder.head name attributes
      else if name = "html" then
        (none, builder.mergeAttributes builder.html attributes)
      else if name = "head" then (none, builder)
      else leave ()
  | .endTag name =>
      if name = "head" then (none, { builder with mode := .afterHead })
      else if isHeadElement name then
        (none,
          if builder.currentElement?.any (·.localName = name) then
            { builder with openNodes := builder.openNodes.tail }
          else builder)
      else leave ()

/-- Before the head one is supplied for everything but white space, comments
and doctypes. -/
def beforeHead (builder : Builder) (token : Token) :
    Option TextSwitch × Builder :=
  let supply := fun () => (builder.startHead []).inHead token
  match token with
  | .text text => if isWhitespace text then (none, builder) else supply ()
  | .comment text => (none, builder.attachComment builder.html text)
  | .doctype _ => (none, builder)
  | .startTag name attributes _ =>
      if name = "html" then
        (none, builder.mergeAttributes builder.html attributes)
      else if name = "head" then (none, builder.startHead attributes)
      else supply ()
  | .endTag _ => supply ()

/-- Before `html` it is supplied for everything but white space, comments and
doctypes. -/
def beforeHtml (builder : Builder) (token : Token) :
    Option TextSwitch × Builder :=
  let supply := fun () => (builder.startHtml []).beforeHead token
  match token with
  | .doctype name => (none, (builder.attach Document.root (.doctype name)).2)
  | .comment text =>
      (none, builder.attachComment (some Document.root) text)
  | .text text => if isWhitespace text then (none, builder) else supply ()
  | .startTag name attributes _ =>
      if name = "html" then (none, builder.startHtml attributes)
      else supply ()
  | .endTag _ => supply ()

/-- Adds one token; the switch says how the text behind it is to be read. -/
def step (builder : Builder) (token : Token) : Option TextSwitch × Builder :=
  match builder.mode with
  | .beforeHtml => builder.beforeHtml token
  | .beforeHead => builder.beforeHead token
  | .inHead => builder.inHead token
  | .afterHead => builder.afterHead token
  | .inBody => builder.inBody token

/-! ### Whole markups -/

/-- Whether no further token may be added. -/
def isStopped (builder : Builder) : Bool :=
  builder.refusal.isSome || (builder.tooDeep && !builder.fragment)

/-- Adds the tokens of a lexer until none is left or the builder stops. -/
def consume (builder : Builder) (lexer : Lexer) : Builder :=
  match read : lexer.next with
  | (none, _) => builder
  | (some token, after) =>
      have := Lexer.next_length read
      let (switch, builder) := builder.step token
      if builder.isStopped then builder
      else builder.consume { rest := after.rest, switch := switch }
termination_by lexer.rest.length

/-- Adds a whole markup.  A fragment starts in the text mode of its context; a
document ends with a body in any case. -/
def run (builder : Builder) (markup : String) : Builder :=
  if builder.fragment then
    builder.consume
      { Lexer.ofMarkup markup with
        switch := builder.currentElement?.bind textSwitch? }
  else
    let builder := builder.consume (Lexer.ofMarkup markup)
    if builder.isStopped then builder else builder.startBody []

end Builder

end MarkupHarden.Html
