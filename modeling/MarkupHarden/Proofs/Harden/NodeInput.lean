import MarkupHarden.Proofs.Harden.Traversal
import MarkupHarden.Proofs.Harden.WorkingTree
import MarkupHarden.Proofs.Html.Markup

/-!
# Nodes as input

A node that is handed over is copied into a shell.  Without rules to apply the
call writes what the caller's document holds at that node; `nodeMarkup` is what
the body of the result contains, and `wholeMarkup` the document around it.
-/

namespace MarkupHarden

open Dom (Document Element NodeData NodeId NodeKind Tree)
open Traversal

namespace Html

/-- The markup of a node on its own: the content of a body, text with escapes
whatever its parent, and anything else with its tags. -/
def nodeMarkup (document : Document) (id : NodeId) : String :=
  if document.isHtmlElement id "body" then innerHtml document id
  else
    match document.data? id with
    | some (.text text) => textMarkup false text
    | _ => outerHtml document id

/-- The markup of a document whose body is the node or holds it. -/
def wholeMarkup (document : Document) (id : NodeId) : String :=
  if document.isHtmlElement id "body" then
    "<html><head></head>" ++ outerHtml document id ++ "</html>"
  else "<html><head></head><body>" ++ nodeMarkup document id ++ "</body></html>"

variable {document : Document} {id : NodeId}

/-- The tree of a node is no text when its payload is none. -/
private theorem not_isText_tree (wellFormed : document.WellFormed)
    (noText : ∀ text, document.data? id ≠ some (.text text)) :
    (document.tree id).isText = false := by
  rw [wellFormed.tree_eq]
  rcases payload : document.data? id with _ | data
  · rfl
  · cases data with
    | text text => exact absurd payload (noText text)
    | _ => rfl

/-- A node that is no body, written where text is escaped. -/
private theorem treeMarkup_eq_nodeMarkup (wellFormed : document.WellFormed)
    (inside : id < document.nodeCount)
    (other : document.isHtmlElement id "body" = false) :
    treeMarkup false (document.tree id) = nodeMarkup document id := by
  rw [nodeMarkup, if_neg (Bool.eq_false_iff.mp other)]
  split
  next text isText =>
    rw [wellFormed.tree_eq, isText, Option.getD_some, treeMarkup]
  next noText =>
    exact (outerHtml_eq wellFormed inside
      (not_isText_tree wellFormed noText)).symm

/-- A body, written with its tags. -/
private theorem treeMarkup_eq_outerHtml (wellFormed : document.WellFormed)
    (inside : id < document.nodeCount)
    (isBody : document.isHtmlElement id "body" = true) :
    treeMarkup false (document.tree id) = outerHtml document id := by
  refine (outerHtml_eq wellFormed inside (not_isText_tree wellFormed ?_)).symm
  intro text isText
  rw [Document.isHtmlElement, Document.element?, isText] at isBody
  contradiction

theorem contentMarkup_bodyAround (wellFormed : document.WellFormed)
    (inside : id < document.nodeCount) :
    contentMarkup (WorkingTree.bodyAround (document.isHtmlElement id "body")
        (document.tree id)) =
      nodeMarkup document id := by
  cases isBody : document.isHtmlElement id "body" with
  | true =>
      rw [WorkingTree.bodyAround, if_pos rfl, nodeMarkup, if_pos isBody,
        innerHtml_eq wellFormed]
  | false =>
      have escaped : writesRawText (.html "body") = false := rfl
      rw [WorkingTree.bodyAround, if_neg Bool.false_ne_true, contentMarkup,
        escaped, forestMarkup, forestMarkup, String.append_empty,
        treeMarkup_eq_nodeMarkup wellFormed inside isBody]

/-- A plain outer element is its content between plain tags. -/
private theorem treeMarkup_plain {name : String}
    (member : name ∈ ["html", "head", "body"]) (raw : Bool)
    (children : List Tree) :
    treeMarkup raw (.node (.element (.html name)) children) =
      "<" ++ name ++ ">" ++
        (forestMarkup false children ++ ("</" ++ name ++ ">")) := by
  have facts : ∀ name ∈ ["html", "head", "body"],
      (Element.html name).isHtml name = true ∧
        startTagMarkup (.html name) = "<" ++ name ++ ">" := by decide
  obtain ⟨named, opens⟩ := facts name member
  rw [treeMarkup_outer member named, opens]

theorem treeMarkup_shellAround (wellFormed : document.WellFormed)
    (inside : id < document.nodeCount) (raw : Bool) :
    treeMarkup raw (WorkingTree.shellAround
        (WorkingTree.bodyAround (document.isHtmlElement id "body")
          (document.tree id))) =
      wholeMarkup document id := by
  have head : treeMarkup false (.node (.element (.html "head")) []) =
      "<head></head>" := by
    rw [treeMarkup_plain (by simp)]
    decide
  have shell (body : Tree) : treeMarkup raw (WorkingTree.shellAround body) =
      "<html><head></head>" ++ treeMarkup false body ++ "</html>" := by
    have opens : "<html><head></head>" =
        "<" ++ "html" ++ ">" ++ "<head></head>" := by decide
    have closes : "</html>" = "</" ++ "html" ++ ">" := by decide
    rw [WorkingTree.shellAround, treeMarkup_plain (by simp), forestMarkup,
      forestMarkup, forestMarkup, head, opens, closes]
    simp only [String.append_assoc, String.append_empty]
  rw [shell, wholeMarkup]
  cases isBody : document.isHtmlElement id "body" with
  | true =>
      rw [WorkingTree.bodyAround, if_pos rfl, if_pos rfl,
        treeMarkup_eq_outerHtml wellFormed inside isBody]
  | false =>
      have opens : "<html><head></head><body>" =
          "<html><head></head>" ++ ("<" ++ "body" ++ ">") := by decide
      have closes : "</body></html>" =
          "</" ++ "body" ++ ">" ++ "</html>" := by decide
      rw [WorkingTree.bodyAround, if_neg Bool.false_ne_true,
        if_neg Bool.false_ne_true, treeMarkup_plain (by simp), forestMarkup,
        forestMarkup, treeMarkup_eq_nodeMarkup wellFormed inside isBody, opens,
        closes]
      simp only [String.append_assoc, String.append_empty]

end Html

/-- Rules that are none change nothing. -/
private theorem traverse_empty {document : Document}
    (wellFormed : document.WellFormed) (top : NodeId)
    (context : Rule.Context) :
    (document.traverse top .empty context).document = document := by
  obtain ⟨_, transformed⟩ := wellFormed.traverse_of_faultFree
    (faultFree_of_builtin document context RuleSet.ofBuiltins_empty.builtin
      (document.subtree top))
  exact transformed.eq_self fun _ _ _ _ => rfl

namespace Engine

/-- A node is copied faithfully: without rules a call on a host that parses
safely hands over the markup of the node, or of the document around it. -/
theorem hardenWith_node {engine : Engine}
    (capable : engine.environment.canParseSafely = true)
    (bundled : engine.serializer = Html.htmlSerializer) {source : Document}
    (wellFormed : source.WellFormed) {id : NodeId} {kind : NodeKind}
    (isKind : source.kind? id = some kind) (notDocument : kind ≠ .document)
    (notDoctype : kind ≠ .doctype) (baseUrl : Option Url) :
    let options (wholeDocument : Bool) : Options :=
      { wholeDocument, returnTree := false, rules := .empty, baseUrl }
    (engine.hardenWith (.node source id) (options false)).value =
        .ok (.markup (Html.nodeMarkup source id)) ∧
      (engine.hardenWith (.node source id) (options true)).value =
        .ok (.markup (Html.wholeMarkup source id)) := by
  intro options
  obtain ⟨data, present, dataKind⟩ := Option.map_eq_some_iff.mp isKind
  have dataNotDocument : data ≠ .document := by
    rintro rfl
    exact notDocument dataKind.symm
  have sourceInside := Document.lt_of_data?_eq_some present
  obtain ⟨document, html, body, later, inside, bodyTree, htmlTree, built⟩ :=
    WorkingTree.ofNode_eq_ok wellFormed present dataNotDocument
  have supported : Source.ofInput (.node source id) =
      .ok (.node source id) := by
    rw [Source.ofInput, Source.ofNode, isKind]
    cases kind <;> first | rfl | contradiction
  have finished (wholeDocument : Bool) :
      (engine.hardenWith (.node source id) (options wholeDocument)).value =
        .ok (.markup (Html.serialize document
          (if wholeDocument then html else body)
          (Hardened.scopeOf wholeDocument))) := by
    have faultFree := faultFree_of_builtin document
      (options wholeDocument).ruleContext RuleSet.ofBuiltins_empty.builtin
      (document.subtree (if wholeDocument then html else body))
    rw [hardenWith, supported]
    simp only [capable, if_true, withParsing, built]
    rw [engine.finish_of_faultFree later faultFree]
    simp only [options, traverse_empty later, bundled, Hardened.ofTree,
      Bool.false_eq_true, if_false]
    rfl
  constructor
  · rw [finished false, ← Html.contentMarkup_bodyAround wellFormed sourceInside,
      ← bodyTree, ← Html.innerHtml_eq later]
    rfl
  · have isElement : (document.tree html).isText = false := htmlTree ▸ rfl
    rw [finished true,
      ← Html.treeMarkup_shellAround wellFormed sourceInside false, ← bodyTree,
      ← htmlTree, ← Html.outerHtml_eq later inside isElement]
    rfl

/-- A text that its parent writes raw is written with escapes on its own. -/
theorem hardenWith_node_rawText :
    let engine : Engine := { environment := .capable }
    let source := (Document.empty.grown Document.root
      (.element (.html "style"))).grown 1 (.text "a<b")
    let options (wholeDocument : Bool) : Options :=
      { wholeDocument, returnTree := false, rules := .empty, baseUrl := none }
    source.WellFormed ∧ source.kind? 2 = some .text ∧
      Html.innerHtml source 1 = "a<b" ∧
      (engine.hardenWith (.node source 2) (options false)).value =
        .ok (.markup "a&lt;b") ∧
      (engine.hardenWith (.node source 2) (options true)).value =
        .ok (.markup
          "<html><head></head><body>a&lt;b</body></html>") := by
  intro engine source options
  have wellFormed : source.WellFormed :=
    (Document.wellFormed_empty.grown (by decide) _).grown (by decide) _
  have isText : source.kind? 2 = some .text := by decide
  have fragment : Html.nodeMarkup source 2 = "a&lt;b" := by decide +kernel
  have whole : Html.wholeMarkup source 2 =
      "<html><head></head><body>a&lt;b</body></html>" := by decide +kernel
  have capable : engine.environment.canParseSafely = true := rfl
  have copied := hardenWith_node capable rfl wellFormed isText (by decide)
    (by decide) none
  rw [fragment, whole] at copied
  exact ⟨wellFormed, isText, by decide +kernel, copied⟩

end Engine

end MarkupHarden
