import MarkupHarden.Html.Parser

/-!
# Working trees

A call works on a private document and a node of it.  Markup is parsed into
one.  When the parser yields no document element, its content is assigned to
the body of a shell without a head.  A caller's node is copied into a fresh
shell.
-/

namespace MarkupHarden

open Dom (Document NodeId)

/-- A private document with the node at which the work starts. -/
structure WorkingTree where
  document : Document
  root : NodeId
  deriving DecidableEq, Repr

namespace WorkingTree

/-- The name of the element at which the work starts. -/
def rootName (wholeDocument : Bool) : String :=
  if wholeDocument then "html" else "body"

/-- The shell without its head. -/
def headlessShell : Document :=
  match Document.shell.head? with
  | some head => Document.shell.detach head
  | none => Document.shell

/-- The markup as content of the body of a shell without a head. -/
def assignToBody? (parser : Html.MarkupParser) (markup : String) :
    Logged (Option Document) :=
  match headlessShell.body? with
  | none => pure none
  | some body => do
      let (result, document) ← parser.parseFragment markup headlessShell body
      match result with
      | .ok () => pure (some document)
      | .error fault => do
          Logged.report (.fragmentParseFailed fault)
          pure none

/-- The document of the markup, by way of the body of a shell if need be. -/
def parse? (parser : Html.MarkupParser) (markup : String) :
    Logged (Option Document) := do
  match ← parser.parseDocument markup with
  | .ok document =>
      if document.documentElement?.isSome then pure (some document)
      else do
        Logged.report .documentElementMissing
        assignToBody? parser markup
  | .error fault => do
      Logged.report (.documentParseFailed fault)
      assignToBody? parser markup

/-- The first element of the document at which the work can start. -/
def select? (document : Document) (wholeDocument : Bool) :
    Option WorkingTree :=
  (document.firstElementNamed? Document.root (rootName wholeDocument)).map
    fun root => { document, root }

/-- The working tree of markup, if there is one. -/
def ofMarkup? (parser : Html.MarkupParser) (markup : String)
    (wholeDocument : Bool) : Logged (Option WorkingTree) := do
  let document ← parse? parser markup
  pure (document.bind (select? · wholeDocument))

/-- Puts a copied node into the body of a shell; a `body` takes the place of
the shell's own.  The node that comes back is the body from then on. -/
def place (shell : Document) (body copy : NodeId) :
    Except Fault (Document × NodeId) :=
  if shell.isHtmlElement copy "body" then
    match shell.replaceChild body copy with
    | (.error refusal, _) => .error (.refused refusal)
    | (.ok (), document) => .ok (document, copy)
  else
    match shell.appendChild body copy with
    | (.error refusal, _) => .error (.refused refusal)
    | (.ok (), document) => .ok (document, body)

/-- The working tree of a copy of a node and everything below it. -/
def ofNode (source : Document) (id : NodeId) (wholeDocument : Bool) :
    Except Fault WorkingTree :=
  match Document.shell.importNode source id with
  | (.error refusal, _) => .error (.refused refusal)
  | (.ok copy, shell) =>
      match shell.documentElement?, shell.body? with
      | some html, some body =>
          (place shell body copy).map fun (document, body) =>
            { document, root := if wholeDocument then html else body }
      | _, _ => .error (.refused .incompleteShell)

end WorkingTree

end MarkupHarden
