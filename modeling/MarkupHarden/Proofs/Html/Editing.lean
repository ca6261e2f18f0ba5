import MarkupHarden.Proofs.Html.Effects

/-!
# Documents under construction

A builder changes its document in three ways only: it appends a node or a text,
and it gives an element other attributes.  What these changes keep, whatever
the nodes they are asked for, holds when the markup has been read if it held
before.
-/

namespace MarkupHarden.Html

open Dom (Document Element NodeData NodeId)

/-- A property of documents that every change made by a builder keeps. -/
structure Durable (holds : Document → Prop) : Prop where
  appendNew : ∀ document parent data, holds document →
    holds (document.appendNew parent data).2
  appendText : ∀ document parent text, holds document →
    holds (document.appendText parent text).2
  setElement : ∀ document id element changed,
    document.element? id = some element → holds document →
      holds (document.setData id (.element changed))

namespace Durable

open Builder

variable {holds : Document → Prop} {builder : Builder}

private theorem attach (durable : Durable holds)
    (before : holds builder.document) (parent : NodeId) (data : NodeData) :
    holds (builder.attach parent data).2.document := by
  obtain ⟨_, same⟩ := builder.attach_snd parent data
  rw [same]
  exact durable.appendNew _ _ _ before

private theorem attachText (durable : Durable holds)
    (before : holds builder.document) (parent : NodeId) (text : String) :
    holds (builder.attachText (some parent) text).document := by
  obtain ⟨_, same⟩ := builder.attachText_eq parent text
  rw [same]
  exact durable.appendText _ _ _ before

private theorem supply (durable : Durable holds) {after : Builder}
    (supply : Supply builder after) (before : holds builder.document) :
    holds after.document := by
  cases supply with
  | @merge node attributes _ _ _ =>
      rcases builder.mergeAttributes_eq node attributes with
        same | ⟨element, present, same⟩
      · rw [same]
        exact before
      · rw [same]
        exact durable.setElement _ _ _ _ present before
  | enterHtml _ => exact durable.attach before _ _
  | enterHead _ _ => exact durable.attach before _ _
  | enterBody _ _ => exact durable.attach before _ _

private theorem shift (durable : Durable holds) {after : Builder}
    (shift : Shift builder after) (before : holds builder.document) :
    holds after.document := by
  cases shift with
  | supply supply => exact durable.supply supply before
  | close _ _ => exact before
  | stray _ => exact before
  | doctype _ _ => exact durable.attach before _ _
  | comment _ _ => exact durable.attach before _ _
  | text _ _ => exact durable.attachText before _ _
  | space _ _ _ => exact durable.attachText before _ _
  | leaf _ _ => exact durable.attach before _ _
  | flatten _ _ _ => exact durable.attach before _ _
  | closeInHead _ _ _ => exact before
  | leaveHead _ _ => exact before
  | reenterHead _ _ => exact before

theorem lasting (durable : Durable holds) :
    Lasting fun builder => holds builder.document where
  shift := fun _ _ shift before => durable.shift shift before
  opening := by
    intro _ _ _ opening before
    cases opening with
    | opened _ _ _ => exact durable.attach before _ _

/-- What holds of a document still holds when a fragment has been parsed into
it, even when the parser has refused. -/
theorem parseFragment (durable : Durable holds) {document : Document}
    (before : holds document) (parser : HtmlParser) (markup : String)
    (context : NodeId) :
    holds (parser.parseFragment markup document context).value.2 := by
  unfold HtmlParser.parseFragment
  split
  · exact before
  · have built := durable.lasting.run
      (situated_forFragment document context parser.maxDepth) before markup
    dsimp only
    split
    · exact built
    · exact built

/-- What holds of the empty document holds of every parsed one. -/
theorem parseDocument (durable : Durable holds) (before : holds .empty)
    {parser : HtmlParser} {markup : String} {document : Document}
    (parsed : (parser.parseDocument markup).value = .ok document) :
    holds document := by
  rw [(eq_run_of_parseDocument parsed).1]
  exact durable.lasting.run (situated_forDocument parser.maxDepth) before markup

end Durable

end MarkupHarden.Html
