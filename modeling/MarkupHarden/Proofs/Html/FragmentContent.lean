import MarkupHarden.Proofs.Dom.Tree
import MarkupHarden.Proofs.Html.Parsed

/-!
# Fragments only add

Markup that is parsed below a node adds nodes at and below that node and leaves
the rest of the document as it was.  Nothing in it can make the parser fail.
-/

namespace MarkupHarden.Html

open Dom (Document Element Namespace NodeData NodeId)

namespace Builder

variable {start : Document} {context : NodeId} {builder : Builder}

/-- A builder for the content of `context` that has changed nothing else in the
document it started from. -/
structure Adds (start : Document) (context : NodeId) (builder : Builder) : Prop
    extends Grounded builder where
  mode : builder.mode = .inBody
  fragment : builder.fragment = true
  extended : start.Extends context builder.document
  newer : ∀ node ∈ builder.openNodes,
    node = context ∨ start.nodeCount ≤ node

namespace Adds

variable {parent : NodeId}

private theorem current_mem (current : builder.current? = some parent) :
    parent ∈ builder.openNodes :=
  List.mem_of_head? current

private theorem current_of_hosts (adds : Adds start context builder)
    (hosts : Hosts builder parent) : builder.current? = some parent := by
  rcases hosts with ⟨_, current⟩ | ⟨inHead, _⟩
  · exact current
  · exact absurd (inHead.symm.trans adds.mode) (by decide)

private theorem extends_grown (adds : Adds start context builder)
    (current : builder.current? = some parent) (data : NodeData) :
    start.Extends context (builder.document.grown parent data) := by
  have isParent := adds.isParent_open (current_mem current)
  have grown := Document.Extends.grown adds.wellFormed (adds.canHold isParent)
    data
  rcases adds.newer parent (current_mem current) with rfl | fresh
  · exact adds.extended.trans grown
  · exact adds.extended.trans_below fresh grown

private theorem grow (adds : Adds start context builder)
    (current : builder.current? = some parent) (data : NodeData) :
    Adds start context
      { builder with document := builder.document.grown parent data } :=
  { adds.grown (adds.isParent_open (current_mem current)) data with
    mode := adds.mode
    fragment := adds.fragment
    extended := adds.extends_grown current data
    newer := adds.newer }

/-- A node becomes the last child of the innermost open element. -/
private theorem attach (adds : Adds start context builder)
    (current : builder.current? = some parent) {data : NodeData}
    (notDocument : data.kind ≠ .document) :
    Adds start context (builder.attach parent data).2 := by
  rw [adds.attach_eq (adds.isParent_open (current_mem current)) notDocument]
  exact adds.grow current data

private theorem attachText (adds : Adds start context builder)
    (textless : ∀ id text, start.data? id ≠ some (.text text))
    (current : builder.current? = some parent) (text : String) :
    Adds start context (builder.attachText (some parent) text) := by
  have isParent := adds.isParent_open (current_mem current)
  rcases adds.attachText_cases isParent text with
    same | ⟨_, _, same⟩ | ⟨last, old, _, found, same⟩
  · rw [same]
    exact adds
  · rw [same]
    exact adds.grow current (.text text)
  · rw [same]
    have isText := (Document.lastText?_eq_some_iff.mp found).2
    -- The text that grows is new, because there was none at the start.
    have fresh : ∀ id < start.nodeCount, last ≠ id := by
      rintro id inside rfl
      rw [adds.extended.data? last inside] at isText
      exact textless last old isText
    obtain ⟨_, grounded⟩ := adds.setData_text isText (old ++ text)
    exact
      { grounded with
        mode := adds.mode
        fragment := adds.fragment
        extended :=
          { wellFormed := grounded.wellFormed
            nodeCount := adds.extended.nodeCount.trans
              (Nat.le_of_eq Document.nodeCount_setData.symm)
            data? := fun id inside =>
              (Document.data?_setData_of_ne (fresh id inside)).trans
                (adds.extended.data? id inside)
            children := fun id inside different =>
              (Document.children_setData id).trans
                (adds.extended.children id inside different) }
        newer := adds.newer }

private theorem narrow (adds : Adds start context builder)
    {nodes : List NodeId} (suffix : nodes <:+ builder.openNodes) :
    Adds start context { builder with openNodes := nodes } :=
  { adds with
    opened := fun node member => adds.opened node (suffix.subset member)
    newer := fun node member => adds.newer node (suffix.subset member) }

theorem shift (adds : Adds start context builder)
    (textless : ∀ id text, start.data? id ≠ some (.text text))
    {after : Builder} (shift : Shift builder after) :
    Adds start context after := by
  have elsewhere {mode : InsertionMode} (other : builder.mode = mode)
      (outside : mode ≠ .inBody) : False :=
    outside (other.symm.trans adds.mode)
  cases shift with
  | supply supply =>
      cases supply with
      | merge whole _ _ => exact absurd (whole.symm.trans adds.fragment) (by decide)
      | enterHtml mode => exact (elsewhere mode (by decide)).elim
      | enterHead mode _ => exact (elsewhere mode (by decide)).elim
      | enterBody mode _ =>
          rcases mode with mode | mode
          · exact (elsewhere mode (by decide)).elim
          · exact (elsewhere mode (by decide)).elim
  | close suffix _ => exact adds.narrow suffix
  | stray name => exact { adds with }
  | doctype _ mode => exact (elsewhere mode (by decide)).elim
  | comment place _ =>
      rcases place with ⟨mode, _⟩ | ⟨mode, _⟩ | ⟨mode, _⟩ | hosts
      · exact (elsewhere mode (by decide)).elim
      · exact (elsewhere mode (by decide)).elim
      · exact (elsewhere mode (by decide)).elim
      · exact adds.attach (adds.current_of_hosts hosts) (by simp [NodeData.kind])
  | text text place =>
      rcases place with ⟨mode, _⟩ | ⟨hosts, _⟩
      · exact (elsewhere mode (by decide)).elim
      · exact adds.attachText textless (adds.current_of_hosts hosts) text
  | space mode _ _ => exact (elsewhere mode (by decide)).elim
  | leaf inserts _ =>
      exact adds.attach (adds.current_of_hosts inserts.hosts)
        (by simp [NodeData.kind])
  | flatten inserts _ _ =>
      exact
        { adds.attach (adds.current_of_hosts inserts.hosts)
            (by simp [NodeData.kind]) with }
  | closeInHead mode _ _ => exact (elsewhere mode (by decide)).elim
  | leaveHead mode _ => exact (elsewhere mode (by decide)).elim
  | reenterHead mode _ => exact (elsewhere mode (by decide)).elim

theorem opening (adds : Adds start context builder)
    {switch : Option TextSwitch} {after : Builder}
    (opening : Opening builder switch after) : Adds start context after := by
  cases opening with
  | @opened parent ns name attributes inserts _ _ =>
      have current := adds.current_of_hosts inserts.hosts
      have isParent := adds.isParent_open (current_mem current)
      have isNew := adds.element?_grown_self isParent
        (elementOf ns name attributes)
      have grown := adds.grow current (.element (elementOf ns name attributes))
      rw [adds.attach_eq isParent (by simp [NodeData.kind])]
      refine { grown with opened := ?_, newer := ?_ }
      · intro node member
        rcases List.mem_cons.mp member with rfl | old
        · exact ⟨_, isNew⟩
        · exact grown.opened node old
      · intro node member
        rcases List.mem_cons.mp member with rfl | old
        · exact .inr adds.extended.nodeCount
        · exact adds.newer node old

end Adds

theorem lasting_adds
    (textless : ∀ id text, start.data? id ≠ some (.text text)) :
    Lasting (Adds start context) where
  shift := fun _ _ shift adds => adds.shift textless shift
  opening := fun _ _ _ opening adds => adds.opening opening

theorem adds_forFragment (wellFormed : start.WellFormed)
    (rooted : start.data? Document.root = some .document) {element : Element}
    (present : start.element? context = some element) (limit : Nat) :
    Adds start context (forFragment start context limit) :=
  { grounded_forFragment wellFormed rooted present limit with
    mode := rfl
    fragment := rfl
    extended := .refl wellFormed context
    newer := fun _ member => .inl (List.mem_singleton.mp member) }

end Builder

/-- Any markup can be parsed below an element of a document without texts, in
which everything else stays as it was. -/
theorem HtmlParser.parseFragment_extends {document : Document}
    (parsed : IsParsed document)
    (rooted : document.data? Document.root = some .document)
    (textless : ∀ id text, document.data? id ≠ some (.text text))
    {context : NodeId} {element : Element}
    (present : document.element? context = some element)
    (ordinary : isTextOnly element = false) (parser : HtmlParser)
    (markup : String) :
    ∃ later, (parser.parseFragment markup document context).value =
        (.ok (), later) ∧ document.Extends context later := by
  have situated :=
    Builder.situated_forFragment document context parser.maxDepth
  have adds := (Builder.lasting_adds textless).run situated
    (Builder.adds_forFragment parsed.wellFormed rooted present parser.maxDepth)
    markup
  have sound := (Builder.steady_forFragment parsed.wellFormed rooted
    parsed.stands present ordinary parser.maxDepth).run situated markup
  unfold HtmlParser.parseFragment
  rw [present]
  simp only [Option.isNone_some, Bool.false_eq_true, if_false]
  generalize (Builder.forFragment document context parser.maxDepth).run markup =
    builder at adds sound
  have faultless : builder.fault? = none := by
    rw [Builder.fault?, sound.accepted, Builder.isStopped, sound.accepted,
      adds.fragment]
    simp
  rw [faultless]
  exact ⟨builder.document, rfl, adds.extended⟩

end MarkupHarden.Html
