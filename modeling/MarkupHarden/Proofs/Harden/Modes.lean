import MarkupHarden.Harden.Engine
import MarkupHarden.Proofs.Harden.Traversal
import MarkupHarden.Proofs.Harden.WorkingTree
import MarkupHarden.Proofs.Html.Markup
import MarkupHarden.Proofs.Rule.Guarantee

/-!
# Output modes

The four ways in which a call can hand over its result, the whole document or
the content of its body, as a tree or as markup, show the same hardened tree.
Each traversal starts at a root of its own, but the rules look at one element
at a time, so that the walks agree wherever both of them come.
-/

namespace MarkupHarden

open Dom (Document Element Node NodeData NodeId)
open Traversal

/-! ### Hardened documents -/

namespace Traversal.Transformed

variable {document after : Document} {change : Element → Element}
  {ids : List NodeId}

theorem isHtmlElement_eq
    (transformed : Transformed document change ids after)
    (keepsName : ∀ element, (change element).ns = element.ns ∧
      (change element).localName = element.localName)
    (id : NodeId) (name : String) :
    after.isHtmlElement id name = document.isHtmlElement id name := by
  have element? : after.element? id =
      if id ∈ ids then (document.element? id).map change
      else document.element? id := by
    split
    next member => exact transformed.element? member
    next other =>
      rw [Document.element?, transformed.data?_eq, if_neg other,
        Document.element?]
  rw [Document.isHtmlElement, element?, Document.isHtmlElement]
  split
  · cases document.element? id with
    | none => rfl
    | some element =>
        rw [Option.map_some, Option.any_some, Option.any_some, Element.isHtml,
          (keepsName element).1, (keepsName element).2, Element.isHtml]
  · rfl

/-- Changed attributes leave the frame of a document as it is. -/
theorem framed (transformed : Transformed document change ids after)
    (keepsName : ∀ element, (change element).ns = element.ns ∧
      (change element).localName = element.localName)
    {html body : NodeId} (framed : Framed document html body) :
    Framed after html body := by
  have wellFormed := transformed.wellFormed framed.wellFormed
  have same := transformed.isHtmlElement_eq keepsName
  have children := congrFun transformed.sameLinks.children
  have first (name : String) :
      after.firstElementNamed? Document.root name =
        document.firstElementNamed? Document.root name := by
    simp only [Document.firstElementNamed?,
      Document.descendants_eq_subtree wellFormed,
      Document.descendants_eq_subtree framed.wellFormed,
      transformed.sameLinks.subtree, same]
  obtain ⟨before, content, others⟩ := framed.last
  refine ⟨wellFormed, ?_, (same html _).trans framed.isHtml,
    (same body _).trans framed.isBody, (first _).trans framed.firstHtml,
    (first _).trans framed.firstBody, before, (children html).trans content,
    fun id member => (same id _).trans (others id member)⟩
  rw [← framed.documentElement, Document.documentElement?, children,
    Document.documentElement?]
  simp only [transformed.kind?_eq]

end Traversal.Transformed

namespace Framed

variable {document : Document} {html body : NodeId}

theorem body_hangs (framed : Framed document html body) :
    document.HangsUnder body html := by
  obtain ⟨before, content, _⟩ := framed.last
  apply (framed.wellFormed.mem_children html body).mp
  rw [content]
  simp

/-- The tree at an outer element, with the element. -/
private theorem exists_tree {id : NodeId} {name : String}
    (wellFormed : document.WellFormed)
    (named : document.isHtmlElement id name = true) :
    ∃ element, document.element? id = some element ∧
      element.isHtml name = true ∧
        document.tree id = .node (.element element) (document.forest id) := by
  obtain ⟨element, present, isNamed⟩ := (Option.any_eq_true _ _).mp named
  refine ⟨element, present, isNamed, ?_⟩
  rw [wellFormed.tree_eq, Document.element?_eq_some_iff.mp present]
  rfl

/-- The content of the body is written with escapes. -/
private theorem innerHtml_body (framed : Framed document html body) :
    Html.innerHtml document body =
      Html.forestMarkup false (document.forest body) := by
  obtain ⟨element, present, named, _⟩ :=
    exists_tree framed.wellFormed framed.isBody
  have escaped := (Html.writing_of_outer (by simp) named).2.2.1
  rw [Html.innerHtml, Html.serialize_inner framed.wellFormed, present,
    Option.any_some, escaped]

/-- The markup of the document element ends with that of the body. -/
theorem outerHtml_html (framed : Framed document html body) :
    ∃ element before, document.element? body = some element ∧
      Html.outerHtml document html =
        before ++ Html.startTagMarkup element ++
          Html.innerHtml document body ++ "</body></html>" := by
  have wellFormed := framed.wellFormed
  obtain ⟨before, content, _⟩ := framed.last
  obtain ⟨htmlElement, htmlPresent, htmlNamed, htmlTree⟩ :=
    exists_tree wellFormed framed.isHtml
  obtain ⟨bodyElement, bodyPresent, bodyNamed, bodyTree⟩ :=
    exists_tree wellFormed framed.isBody
  have inside := Document.lt_of_data?_eq_some
    (Document.element?_eq_some_iff.mp htmlPresent)
  have forest : document.forest html =
      before.map document.tree ++ [document.tree body] := by
    rw [Document.forest, content, List.map_append, List.map_singleton]
  refine ⟨bodyElement, Html.startTagMarkup htmlElement ++
    Html.forestMarkup false (before.map document.tree), bodyPresent, ?_⟩
  rw [Html.outerHtml, Html.serialize_outer wellFormed inside, htmlTree,
    Html.treeMarkup_outer (by simp) htmlNamed, forest, Html.forestMarkup_append,
    Html.forestMarkup, Html.forestMarkup, bodyTree,
    Html.treeMarkup_outer (by simp) bodyNamed, framed.innerHtml_body]
  have endTags : "</body></html>" =
      "</" ++ "body" ++ ">" ++ ("</" ++ "html" ++ ">") := by decide
  simp only [endTags, String.append_assoc, String.append_empty]

end Framed

/-! ### Calls in all modes -/

namespace Engine

/-- The engine with the bundled parser and serializer on a host that parses
safely. -/
def bundled (parser : Html.HtmlParser) : Engine where
  environment := .capable
  parser := parser.toMarkupParser
  serializer := Html.htmlSerializer

variable {parser : Html.HtmlParser} {rules : RuleSet} {document : Document}

/-- The document behind a walk. -/
private def hardened (document : Document) (rules : RuleSet)
    (context : Rule.Context) (root : NodeId) : Document :=
  (document.traverse root rules context).document

private theorem transformed_hardened (wellFormed : document.WellFormed)
    (builtin : ∀ rule ∈ rules.rules, rule.isCustom = false)
    (context : Rule.Context) (root : NodeId) :
    Transformed document (RuleSet.effect context rules.rules)
      (document.subtree root) (hardened document rules context root) :=
  (wellFormed.traverse_of_faultFree
    (faultFree_of_builtin document context builtin (document.subtree root))).2

/-- A call that parses its markup hands over the working tree as it is behind
the walk. -/
private theorem hardenWith_eq (options : Options)
    (wellFormed : document.WellFormed)
    (builtin : ∀ rule ∈ options.rules.rules, rule.isCustom = false)
    {markup : String} (tagged : markup.toList.contains '<' = true)
    {root : NodeId}
    (built : (WorkingTree.ofMarkup? parser.toMarkupParser markup
      options.wholeDocument).value = some { document, root }) :
    ((bundled parser).hardenWith (.markup markup) options).value =
      .ok (.ofTree Html.htmlSerializer options (some {
        document := hardened document options.rules options.ruleContext root
        root })) := by
  have rich : isPlainText options markup = false := by
    rw [isPlainText, tagged, Bool.not_true, Bool.and_false]
  have parsed : (WorkingTree.ofMarkup? (bundled parser).parser markup
      options.wholeDocument).value = some { document, root } := built
  change ((bundled parser).withParsing options (.markup markup)).value = _
  rw [withParsing, rich, if_neg Bool.false_ne_true, Logged.value_bind, parsed]
  exact (bundled parser).finish_of_faultFree wellFormed
    (faultFree_of_builtin document options.ruleContext builtin
      (document.subtree root))

/-- Both walks make the same of the body, because the one from the document
element comes there too. -/
private theorem tree_hardened {html body : NodeId}
    (framed : Framed document html body)
    (builtin : ∀ rule ∈ rules.rules, rule.isCustom = false)
    (context : Rule.Context) :
    (hardened document rules context html).tree body =
      (hardened document rules context body).tree body := by
  have wellFormed := framed.wellFormed
  have whole := transformed_hardened wellFormed builtin context html
  have fragment := transformed_hardened wellFormed builtin context body
  have bodyInside : body < document.nodeCount :=
    Document.lt_of_parent?_eq_some framed.body_hangs
  have htmlInside : html < document.nodeCount :=
    wellFormed.parent_lt framed.body_hangs
  refine (fragment.wellFormed wellFormed).tree_congr
    (whole.wellFormed wellFormed) body fun id below => ?_
  rw [Document.InSubtree, fragment.sameLinks.hangsUnder] at below
  have inBody : id ∈ document.subtree body :=
    (wellFormed.mem_subtree_iff id body).mpr ⟨bodyInside, below⟩
  have inHtml : id ∈ document.subtree html :=
    (wellFormed.mem_subtree_iff id html).mpr
      ⟨htmlInside, below.tail framed.body_hangs⟩
  have sameNode : (hardened document rules context html).node? id =
      (hardened document rules context body).node? id := by
    rw [whole id, if_pos inHtml, fragment id, if_pos inBody]
  simp only [Document.data?, Document.children, sameNode, and_self]

/-- The four output modes of a call with built-in rules show one tree: as
markup they write the roots of the tree results, the body is the same in both
tree results, and the markup of the whole document is the markup of the
fragment between the start tag of the body and the last end tags. -/
theorem hardenWith_modes (positive : 1 ≤ parser.maxDepth) {markup : String}
    (tagged : markup.toList.contains '<' = true) {rules : RuleSet}
    (builtin : ∀ rule ∈ rules.rules, rule.isCustom = false)
    (baseUrl : Option Url) :
    ∃ whole fragment : WorkingTree, ∃ element before,
      (∀ returnTree, ((bundled parser).hardenWith (.markup markup)
          { wholeDocument := true, returnTree, rules, baseUrl }).value =
        .ok (if returnTree then .tree (some whole)
          else .markup (Html.outerHtml whole.document whole.root))) ∧
      (∀ returnTree, ((bundled parser).hardenWith (.markup markup)
          { wholeDocument := false, returnTree, rules, baseUrl }).value =
        .ok (if returnTree then .tree (some fragment)
          else .markup (Html.innerHtml fragment.document fragment.root))) ∧
      whole.document.documentElement? = some whole.root ∧
      whole.document.body? = some fragment.root ∧
      fragment.document.body? = some fragment.root ∧
      whole.document.element? fragment.root = some element ∧
      whole.document.tree? fragment.root =
        fragment.document.tree? fragment.root ∧
      Html.outerHtml whole.document whole.root =
        before ++ Html.startTagMarkup element ++
          Html.innerHtml fragment.document fragment.root ++
            "</body></html>" := by
  obtain ⟨document, html, body, framed, built⟩ :=
    WorkingTree.ofMarkup?_framed positive markup
  let context : Rule.Context := { resolver := { base := baseUrl } }
  have keepsName := Rule.effect_keeps_name context builtin
  have wholeFramed : Framed (hardened document rules context html) html body :=
    (transformed_hardened framed.wellFormed builtin context html).framed
      keepsName framed
  have fragmentFramed :
      Framed (hardened document rules context body) html body :=
    (transformed_hardened framed.wellFormed builtin context body).framed
      keepsName framed
  have sameTree := tree_hardened framed builtin context
  have sameContent :
      Html.innerHtml (hardened document rules context html) body =
        Html.innerHtml (hardened document rules context body) body := by
    have sameForest := sameTree
    rw [wholeFramed.wellFormed.tree_eq, fragmentFramed.wellFormed.tree_eq]
      at sameForest
    rw [wholeFramed.innerHtml_body, fragmentFramed.innerHtml_body,
      (Dom.Tree.node.inj sameForest).2]
  obtain ⟨element, before, present, written⟩ := wholeFramed.outerHtml_html
  rw [sameContent] at written
  refine ⟨{ document := hardened document rules context html, root := html },
    { document := hardened document rules context body, root := body },
    element, before, fun returnTree => ?_, fun returnTree => ?_,
    wholeFramed.documentElement, wholeFramed.body?, fragmentFramed.body?,
    present, ?_, written⟩
  · rw [hardenWith_eq { wholeDocument := true, returnTree, rules, baseUrl }
      framed.wellFormed builtin tagged (built true)]
    cases returnTree <;> rfl
  · rw [hardenWith_eq { wholeDocument := false, returnTree, rules, baseUrl }
      framed.wellFormed builtin tagged (built false)]
    cases returnTree <;> rfl
  · rw [Document.WellFormed.tree?_eq
        (Document.lt_of_parent?_eq_some wholeFramed.body_hangs),
      Document.WellFormed.tree?_eq
        (Document.lt_of_parent?_eq_some fragmentFramed.body_hangs), sameTree]

/-- The modes of a call whose markup is nested too deep for a document. -/
theorem hardenWith_modes_nested :
    (({ maxDepth := 1 } : Html.HtmlParser).parseDocument "<b><i>").value.isOk =
        false ∧
      1 ≤ ({ maxDepth := 1 } : Html.HtmlParser).maxDepth ∧
      "<b><i>".toList.contains '<' = true ∧
      (∀ rule ∈ RuleSet.default.rules, rule.isCustom = false) ∧
      ∃ whole fragment : WorkingTree, ∃ element before,
        (∀ returnTree, ((bundled { maxDepth := 1 }).hardenWith
            (.markup "<b><i>")
            { wholeDocument := true, returnTree, rules := .default }).value =
          .ok (if returnTree then .tree (some whole)
            else .markup (Html.outerHtml whole.document whole.root))) ∧
        (∀ returnTree, ((bundled { maxDepth := 1 }).hardenWith
            (.markup "<b><i>")
            { wholeDocument := false, returnTree, rules := .default }).value =
          .ok (if returnTree then .tree (some fragment)
            else .markup (Html.innerHtml fragment.document fragment.root))) ∧
        whole.document.documentElement? = some whole.root ∧
        whole.document.body? = some fragment.root ∧
        fragment.document.body? = some fragment.root ∧
        whole.document.element? fragment.root = some element ∧
        whole.document.tree? fragment.root =
          fragment.document.tree? fragment.root ∧
        Html.outerHtml whole.document whole.root =
          before ++ Html.startTagMarkup element ++
            Html.innerHtml fragment.document fragment.root ++
              "</body></html>" := by
  have positive : 1 ≤ ({ maxDepth := 1 } : Html.HtmlParser).maxDepth := by
    decide
  have tagged : "<b><i>".toList.contains '<' = true := by decide
  have builtin : ∀ rule ∈ RuleSet.default.rules, rule.isCustom = false := by
    decide
  exact ⟨by decide +kernel, positive, tagged, builtin,
    hardenWith_modes positive tagged builtin none⟩

end Engine

end MarkupHarden
