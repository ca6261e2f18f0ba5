import MarkupHarden.Dom.Cursor
import MarkupHarden.Rule.RuleSet

/-!
# Traversal

One walk over a subtree applies a rule set to each element on the way.  The
first fault ends the walk; what was changed before it stays changed.
-/

namespace MarkupHarden

open Dom (Cursor Document KindSet NodeId)

/-- What a traversal counts. -/
structure Traversal.Report where
  /-- Elements, texts and comments visited, with the top of the subtree. -/
  visited : Nat := 0
  elements : Nat := 0
  ruleApplications : Nat := 0
  deriving DecidableEq, Repr

/-- A document after a walk over it, with the counts or the fault that ended
the walk. -/
structure Traversal.Outcome where
  document : Document
  result : Except Fault Traversal.Report
  events : List Event := []

namespace Traversal

/-- The kinds of nodes that a traversal visits. -/
def visitedKinds : KindSet :=
  ((KindSet.only .element).union (.only .text)).union (.only .comment)

/-- Adds one application of each rule of a set to the counts. -/
def Report.countElement (report : Report) (rules : RuleSet) : Report :=
  { report with
    elements := report.elements + 1
    ruleApplications := report.ruleApplications + rules.size }

/-- Visits at most `limit` further nodes. -/
def visit (rules : RuleSet) (context : Rule.Context) :
    Nat → Cursor → Report → Document → Outcome
  | 0, _, report, document => { document, result := .ok report }
  | limit + 1, cursor, report, document =>
      match cursor.next document with
      | (none, _) => { document, result := .ok report }
      | (some id, cursor) =>
          let report := { report with visited := report.visited + 1 }
          match document.element? id with
          | none => visit rules context limit cursor report document
          | some element =>
              let applied := rules.apply context element
              let document := document.setData id (.element applied.element)
              match applied.fault with
              | some fault =>
                  { document, result := .error fault, events := applied.events }
              | none =>
                  let rest :=
                    visit rules context limit cursor
                      (report.countElement rules) document
                  { rest with events := applied.events ++ rest.events }

end Traversal

/-- Visits `top` and everything below it in document order and applies the
rules to each element. -/
def Dom.Document.traverse (document : Document) (top : NodeId)
    (rules : RuleSet) (context : Rule.Context) : Traversal.Outcome :=
  Traversal.visit rules context document.nodeCount
    { top, kinds := Traversal.visitedKinds } {} document

end MarkupHarden
