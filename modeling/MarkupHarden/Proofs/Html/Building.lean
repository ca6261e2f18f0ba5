import MarkupHarden.Html.TreeBuilder
import MarkupHarden.Proofs.Dom.Attributes
import MarkupHarden.Proofs.Dom.Growth

/-!
# Steps of a builder

What adding one node does to a builder whose document is well-formed.  No node
is refused below an element or the document itself.
-/

namespace MarkupHarden

open Dom (Attributes Document Element NodeData NodeId)

/-! ### Elements from tags -/

namespace Dom.Element

theorem addAttribute_of_not_mem {element : Element} {key : String}
    (isKey : element.attributeKey key = key)
    (absent : key ∉ element.attributes.keys) (value : String) :
    (element.addAttribute key value).2 =
      { element with attributes := element.attributes ++ [(key, value)] } := by
  have missing : element.hasAttribute key = false := by
    rw [hasAttribute, Attributes.has, isKey,
      Attributes.find?_eq_none_iff.mpr absent]
    rfl
  rw [addAttribute, missing, setAttribute, isKey,
    Attributes.update_of_not_mem absent]
  rfl

/-- Attributes that are all new are appended in order. -/
theorem addAttributes_eq (element : Element)
    (attributes : List (String × String))
    (isKey : ∀ pair ∈ attributes, element.attributeKey pair.1 = pair.1)
    (distinct : (element.attributes.keys ++ attributes.map Prod.fst).Nodup) :
    element.addAttributes attributes =
      { element with attributes := element.attributes ++ attributes } := by
  induction attributes generalizing element with
  | nil => rw [List.append_nil]; rfl
  | cons pair attributes induction =>
      obtain ⟨key, value⟩ := pair
      have absent : key ∉ element.attributes.keys := fun member =>
        (List.nodup_append.mp distinct).2.2 _ member _ List.mem_cons_self rfl
      have added := addAttribute_of_not_mem
        (isKey (key, value) List.mem_cons_self) absent value
      have rest := induction
        { element with attributes := element.attributes ++ [(key, value)] }
        (fun other member => isKey other (List.mem_cons_of_mem _ member))
        (by simpa [Attributes.keys] using distinct)
      rw [addAttributes, List.foldl_cons, added]
      rw [addAttributes] at rest
      rw [rest, List.append_assoc]
      rfl

end Dom.Element

namespace Html.Builder

variable {builder : Builder} {parent : NodeId}

/-! ### Adding nodes -/

theorem attach_eq (wellFormed : builder.document.WellFormed)
    (holds : (builder.document.data? parent).any
      NodeData.canHoldChildren = true)
    {data : NodeData} (notDocument : data.kind ≠ .document) :
    builder.attach parent data =
      (builder.document.nodeCount,
        { builder with document := builder.document.grown parent data }) := by
  rw [attach, Document.appendNew_eq wellFormed holds notDocument]

theorem attachText_eq_grown (wellFormed : builder.document.WellFormed)
    (holds : (builder.document.data? parent).any
      NodeData.canHoldChildren = true)
    {text : String} (nonempty : text ≠ "")
    (noText : builder.document.lastText? parent = none) :
    builder.attachText (some parent) text =
      { builder with
        document := builder.document.grown parent (.text text) } := by
  rw [attachText, Document.appendText_eq_grown wellFormed holds nonempty noText]

theorem attachText_eq_setData {last : NodeId} {old text : String}
    (nonempty : text ≠ "")
    (found : builder.document.lastText? parent = some (last, old)) :
    builder.attachText (some parent) text =
      { builder with
        document := builder.document.setData last (.text (old ++ text)) } := by
  rw [attachText, Document.appendText_eq_setData nonempty found]

theorem openNode_eq {node : NodeId}
    (short : builder.openNodes.length < builder.maxDepth) :
    builder.openNode node =
      (true, { builder with openNodes := node :: builder.openNodes }) := by
  rw [openNode, if_neg (Nat.not_le.mpr short)]

theorem openNode_of_deep {node : NodeId}
    (deep : builder.maxDepth ≤ builder.openNodes.length) :
    builder.openNode node = (false, { builder with tooDeep := true }) := by
  rw [openNode, if_pos deep]

/-! ### Supplying the outer elements -/

/-- The builder with an `html` element. -/
def withHtml (builder : Builder) : Builder :=
  match builder.html with
  | some _ => builder
  | none =>
      let (html, builder) :=
        builder.attach Document.root (.element (.html "html"))
      { builder with html := some html }

/-- The builder with a `head` element. -/
def withHead (builder : Builder) : Builder :=
  match builder.head with
  | some _ => builder
  | none =>
      let (head, builder) := builder.attachUnderHtml "head"
      { builder with head := some head }

/-- The builder with a `body` element. -/
def withBody (builder : Builder) : Builder :=
  match builder.body with
  | some _ => builder
  | none =>
      let (body, builder) := builder.attachUnderHtml "body"
      { builder with body := some body }

theorem startHtml_eq (builder : Builder) (attributes : TagAttributes) :
    builder.startHtml attributes =
      { builder.withHtml.mergeAttributes builder.withHtml.html attributes with
        mode := .beforeHead } := rfl

theorem startHead_eq (builder : Builder) (attributes : TagAttributes) :
    builder.startHead attributes =
      let before :=
        (if builder.html.isNone then builder.startHtml [] else builder).withHead
      let later := before.mergeAttributes before.head attributes
      { later with openNodes := later.head.toList, mode := .inHead } := rfl

theorem startBody_eq (builder : Builder) (attributes : TagAttributes) :
    builder.startBody attributes =
      let before :=
        (if builder.head.isNone then builder.startHead [] else builder).withBody
      let later := before.mergeAttributes before.body attributes
      if later.mode = .inBody then later
      else { later with openNodes := later.body.toList, mode := .inBody } := rfl

/-! ### Reading tokens one by one -/

theorem consume_eq (builder : Builder) (lexer : Lexer) :
    builder.consume lexer =
      match lexer.next with
      | (none, _) => builder
      | (some token, after) =>
          if (builder.step token).2.isStopped then (builder.step token).2
          else
            (builder.step token).2.consume
              { rest := after.rest, switch := (builder.step token).1 } := by
  rw [consume]
  split
  next read => rw [read]
  next read => simp only [read]

theorem consume_congr {lexer other : Lexer} (same : lexer.next = other.next) :
    builder.consume lexer = builder.consume other := by
  rw [consume_eq, same, ← consume_eq]

theorem consume_of_next {lexer after : Lexer} {token : Token}
    {switch : Option TextSwitch} {later : Builder}
    (read : lexer.next = (some token, after))
    (stepped : builder.step token = (switch, later))
    (going : later.isStopped = false) :
    builder.consume lexer = later.consume { rest := after.rest, switch } := by
  rw [consume_eq, read]
  simp only [stepped, going, Bool.false_eq_true, if_false]

theorem consume_of_content {chars rest : List Char} {token : Token}
    {switch : Option TextSwitch} {later : Builder}
    (read : readContent? chars = some (token, rest))
    (stepped : builder.step token = (switch, later))
    (going : later.isStopped = false) :
    builder.consume { rest := chars } = later.consume { rest, switch } := by
  have next : ({ rest := chars } : Lexer).next = (some token, { rest }) := by
    rw [Lexer.next, Lexer.content, read]
  exact consume_of_next next stepped going

theorem consume_of_done {lexer after : Lexer}
    (done : lexer.next = (none, after)) : builder.consume lexer = builder := by
  rw [consume_eq, done]

end Html.Builder

end MarkupHarden
