import MarkupHarden.Proofs.Html.Appending
import MarkupHarden.Proofs.Html.Shaping

/-!
# How open elements are nested

Inside the body every open element is the last child of the one around it, and
a token adds its node to the innermost of them.  Inside the head this is not so:
elements and comments are added to the head itself, whatever else is open, and
only text goes into the innermost element.
-/

namespace MarkupHarden.Html

open Dom (Document Element NodeData NodeId)

namespace Builder

variable {builder after last : Builder} {parent : NodeId} {data : NodeData}

/-- In the body each open element is the last child of the next; in the head
each of them but the head is a child of the head. -/
structure Nested (builder : Builder) : Prop where
  inBody : builder.mode = .inBody →
    builder.document.Rightmost builder.openNodes
  inHead : builder.mode = .inHead → ∀ node ∈ builder.openNodes,
    builder.head = some node ∨ builder.document.parent? node = builder.head

/-- A node to which others may be added.  Inside the body this is only the
innermost open element. -/
structure Takes (builder : Builder) (parent : NodeId) : Prop where
  isParent : IsParent builder.document parent
  atEnd : builder.mode = .inBody → builder.current? = some parent

private theorem takes_root (outside : builder.mode ≠ .inBody) :
    Takes builder Document.root :=
  ⟨.inl rfl, fun mode => absurd mode outside⟩

private theorem takes_html (formed : Formed builder)
    (outside : builder.mode ≠ .inBody) (isHtml : builder.html = some parent) :
    Takes builder parent :=
  ⟨formed.isParent_outer (.inl isHtml), fun mode => absurd mode outside⟩

private theorem takes_current (formed : Formed builder)
    (current : builder.current? = some parent) : Takes builder parent :=
  ⟨formed.isParent_open (List.mem_of_head? current), fun _ => current⟩

private theorem takes_of_hosts (formed : Formed builder)
    (hosts : Hosts builder parent) : Takes builder parent := by
  rcases hosts with ⟨_, current⟩ | ⟨mode, isHead⟩
  · exact takes_current formed current
  · constructor
    · exact formed.isParent_outer (.inr (.inl isHead))
    · exact fun inBody => absurd (mode.symm.trans inBody) (by decide)

namespace Nested

/-- Nothing is said of a builder that is neither in the head nor in the body. -/
private theorem elsewhere (outside : builder.mode ≠ .inBody)
    (notInHead : builder.mode ≠ .inHead) : Nested builder :=
  ⟨fun mode => absurd mode outside, fun mode => absurd mode notInHead⟩

/-- Payloads do not matter. -/
private theorem setData (nested : Nested builder) (node : NodeId)
    (data : NodeData) :
    Nested
      { builder with document := builder.document.setData node data } where
  inBody := fun mode => (nested.inBody mode).congr fun id _ => by
    rw [Document.lastChild?, Document.lastChild?, Document.children_setData]
  inHead := fun mode id member => by
    rw [Document.parent?_setData]
    exact nested.inHead mode id member

private theorem narrow (nested : Nested builder) {nodes : List NodeId}
    (suffix : nodes <:+ builder.openNodes) :
    Nested { builder with openNodes := nodes } where
  inBody := fun mode => (nested.inBody mode).of_suffix suffix
  inHead := fun mode node member =>
    nested.inHead mode node (suffix.subset member)

/-! ### Adding nodes -/

section

variable (nested : Nested builder) (formed : Formed builder)

include nested formed

private theorem grow (takes : Takes builder parent) (data : NodeData) :
    Nested
      { builder with document := builder.document.grown parent data } where
  inBody := fun mode => by
    have split : parent :: builder.openNodes.tail = builder.openNodes :=
      List.cons_head?_tail (takes.atEnd mode)
    have rightmost := nested.inBody mode
    rw [← split] at rightmost
    -- The path up from the new node, without that node.
    have grown := rightmost.grown formed.wellFormed
      (formed.canHold takes.isParent) data
    rw [split] at grown
    exact grown.tail
  inHead := fun mode node member => by
    have old := Nat.ne_of_lt (formed.lt_of_isOpen member)
    rw [Document.parent?_grown (formed.lt_of_isParent takes.isParent),
      if_neg old]
    exact nested.inHead mode node member

private theorem attach (takes : Takes builder parent)
    (notDocument : data.kind ≠ .document) :
    Nested (builder.attach parent data).2 := by
  rw [formed.attach_eq takes.isParent notDocument]
  exact nested.grow formed takes data

private theorem attachText (takes : Takes builder parent) (text : String) :
    Nested (builder.attachText (some parent) text) := by
  rcases formed.attachText_cases takes.isParent text with
    same | ⟨_, _, same⟩ | ⟨_, _, _, _, same⟩
  · rw [same]
    exact nested
  · rw [same]
    exact nested.grow formed takes (.text text)
  · rw [same]
    exact nested.setData _ _

end

/-! ### Moves -/

private theorem supply (nested : Nested builder) (formed : Formed builder)
    (supply : Supply builder after) : Nested after := by
  cases supply with
  | merge _ isOuter _ =>
      obtain ⟨_, _, _, merged⟩ := formed.mergeAttributes_eq isOuter _
      rw [merged]
      exact nested.setData _ _
  | enterHtml _ =>
      exact elsewhere InsertionMode.noConfusion InsertionMode.noConfusion
  | enterHead _ _ =>
      exact ⟨InsertionMode.noConfusion, fun _ node member =>
        .inl (congrArg some (List.mem_singleton.mp member).symm)⟩
  | enterBody _ _ =>
      exact ⟨fun _ => List.isChain_singleton _, InsertionMode.noConfusion⟩

/-- Every move keeps the open elements nested. -/
theorem shift (nested : Nested builder) (formed : Formed builder)
    (shift : Shift builder after) : Nested after := by
  cases shift with
  | supply supply => exact nested.supply formed supply
  | close suffix _ => exact nested.narrow suffix
  | stray name => exact { nested with }
  | doctype _ mode =>
      apply nested.attach formed (takes_root (by rw [mode]; decide))
      simp [NodeData.kind]
  | comment place _ =>
      refine nested.attach formed ?_ (by simp [NodeData.kind])
      rcases place with ⟨mode, rfl⟩ | ⟨mode, isHtml⟩ | ⟨mode, isHtml⟩ | hosts
      · exact takes_root (by rw [mode]; decide)
      · exact takes_html formed (by rw [mode]; decide) isHtml
      · exact takes_html formed (by rw [mode]; decide) isHtml
      · exact takes_of_hosts formed hosts
  | text text place =>
      apply nested.attachText formed
      rcases place with ⟨_, current, _⟩ | ⟨hosts, _⟩
      · exact takes_current formed current
      · exact takes_of_hosts formed hosts
  | space mode isHtml _ =>
      apply nested.attachText formed
      exact takes_html formed (by rw [mode]; decide) isHtml
  | leaf inserts _ =>
      apply nested.attach formed (takes_of_hosts formed inserts.hosts)
      simp [NodeData.kind]
  | @flatten parent ns name attributes inserts _ _ =>
      have attached : Nested
          (builder.attach parent (.element (elementOf ns name attributes))).2 := by
        apply nested.attach formed (takes_of_hosts formed inserts.hosts)
        simp [NodeData.kind]
      exact { attached with }
  | closeInHead _ _ _ => exact nested.narrow (List.tail_suffix _)
  | leaveHead _ _ =>
      exact elsewhere InsertionMode.noConfusion InsertionMode.noConfusion
  | reenterHead _ isHead =>
      exact ⟨InsertionMode.noConfusion, fun _ node member =>
        .inl (List.mem_singleton.mp member ▸ isHead)⟩

theorem opening (nested : Nested builder) (formed : Formed builder)
    {switch : Option TextSwitch} (opening : Opening builder switch after) :
    Nested after := by
  cases opening with
  | @opened parent ns name attributes inserts _ _ =>
      have takes := takes_of_hosts formed inserts.hosts
      have grown := nested.grow formed takes
        (.element (elementOf ns name attributes))
      rw [formed.attach_eq takes.isParent (by simp [NodeData.kind])]
      refine ⟨fun mode => ?_, fun mode => List.forall_mem_cons.mpr
        ⟨.inr ?_, grown.inHead mode⟩⟩
      · have split : parent :: builder.openNodes.tail = builder.openNodes :=
          List.cons_head?_tail (takes.atEnd mode)
        have rightmost := nested.inBody mode
        rw [← split] at rightmost ⊢
        exact rightmost.grown formed.wellFormed
          (formed.canHold takes.isParent) _
      · rw [Document.parent?_grown (formed.lt_of_isParent takes.isParent),
          if_pos rfl]
        rcases inserts.hosts with ⟨inBody, _⟩ | ⟨_, isHead⟩
        · exact absurd (inBody.symm.trans mode) (by decide)
        · exact isHead.symm

end Nested

theorem lasting_nested : Lasting fun builder =>
    (Situated builder ∧ Formed builder) ∧ Nested builder where
  shift := fun _ _ shift ⟨formed, nested⟩ =>
    ⟨lasting_formed.shift _ _ shift formed, nested.shift formed.2 shift⟩
  opening := fun _ _ _ opening ⟨formed, nested⟩ =>
    ⟨lasting_formed.opening _ _ _ opening formed,
      nested.opening formed.2 opening⟩

theorem nested_forDocument (limit : Nat) : Nested (forDocument limit) :=
  ⟨InsertionMode.noConfusion, InsertionMode.noConfusion⟩

/-! ### Tokens in the head -/

/-- What a token does inside the head unless it ends the head. -/
inductive HeadStep (before : Builder) : Token → Builder → Prop where
  | text {parent : NodeId} (text : String) :
      before.current? = some parent →
      (before.head = some parent → isWhitespace text = true) →
      HeadStep before (.text text) (before.attachText (some parent) text)
  | comment {head : NodeId} (text : String) :
      before.head = some head →
      HeadStep before (.comment text)
        (before.attach head (.comment text)).2
  /-- An element is added to the head, whatever else is open. -/
  | element {head : NodeId} {name : String} {attributes : TagAttributes}
      {selfClosing : Bool} {after : Builder} :
      before.head = some head → isHeadElement name = true →
      Plants before head (elementOf .html name attributes) after →
      HeadStep before (.startTag name attributes selfClosing) after
  | merge (attributes : TagAttributes) (selfClosing : Bool) :
      HeadStep before (.startTag "html" attributes selfClosing)
        (before.mergeAttributes before.html attributes)
  | idle {token : Token} :
      isIdle token = true → HeadStep before token before
  | close {name : String} :
      before.currentElement?.any (·.localName = name) = true →
      HeadStep before (.endTag name)
        { before with openNodes := before.openNodes.tail }

/-- Behind the head a body is supplied for the token. -/
private theorem mode_supplied (situated : Situated builder)
    (mode : builder.mode = .afterHead) (token : Token) :
    ((builder.startBody []).inBody token).2.mode = .inBody := by
  have whole := situated.whole_of_mode (by rw [mode]; decide)
  have supplies := supplies_startBody situated areTagAttributes_nil whole
  have isMode := mode_startBody builder []
  have isOpen := (situated.supplies supplies).opened isMode
  have stepped := (bodyStep_step isMode isOpen token).mode_eq
  rw [step, isMode] at stepped
  exact stepped

/-- A token that ends the head does not lead back into it. -/
private theorem mode_afterHead (situated : Situated builder)
    (mode : builder.mode = .afterHead) {token : Token}
    (notBlank : ∀ text, token = .text text → isWhitespace text = false)
    (notInHead : ∀ name attributes selfClosing,
      token = .startTag name attributes selfClosing →
        isHeadElement name = false) :
    (builder.afterHead token).2.mode ≠ .inHead := by
  have supplied : ((builder.startBody []).inBody token).2.mode ≠ .inHead := by
    rw [mode_supplied situated mode token]
    decide
  have still : builder.mode ≠ .inHead := by
    rw [mode]
    decide
  unfold afterHead
  cases token with
  | text text =>
      dsimp only
      rw [notBlank text rfl, if_neg Bool.false_ne_true]
      exact supplied
  | comment text =>
      unfold attachComment
      dsimp only
      split
      · exact still
      next html _ =>
        obtain ⟨_, same⟩ := builder.attach_snd html (.comment text)
        rw [same]
        exact still
  | doctype name => exact still
  | startTag name attributes selfClosing =>
      dsimp only
      split
      · rw [mode_mergeAttributes]
        exact still
      split
      · rw [mode_startBody]
        decide
      split
      next inHead =>
        rw [notInHead name attributes selfClosing rfl] at inHead
        contradiction
      next => exact supplied
  | endTag name => exact still

/-- Every token in the head is a step inside the head or ends it. -/
theorem headStep_step (situated : Situated builder) (formed : Formed builder)
    (mode : builder.mode = .inHead) (token : Token) :
    HeadStep builder token (builder.step token).2 ∨
      (builder.step token).2.mode ≠ .inHead := by
  obtain ⟨_, ⟨head, isHead⟩, _⟩ := situated.parts_behind_head (.inl mode)
  have leaves := situated.shift (.leaveHead mode List.nil_suffix)
  have stepped : builder.step token = builder.inHead token := by
    rw [step, mode]
  rw [stepped]
  unfold inHead
  cases token with
  | text text =>
      dsimp only
      -- The head is open, so that there is an innermost open element.
      have isOpen : builder.openNodes ≠ [] := by
        intro none
        have anchored := formed.anchored mode
        rw [none, isHead] at anchored
        contradiction
      obtain ⟨parent, current⟩ := exists_current? isOpen
      rw [current]
      split
      next apart =>
        refine .inl (.text text current fun same => ?_)
        simp [same] at apart
      next together =>
        split
        next blank =>
          have atHead : some parent = builder.head := by
            simpa using together
          rw [← atHead]
          exact .inl (.text text current fun _ => blank)
        next notBlank =>
          refine .inr (mode_afterHead leaves rfl ?_ ?_)
          · rintro _ ⟨⟩
            exact Bool.eq_false_iff.mpr notBlank
          · rintro _ _ _ ⟨⟩
  | comment text =>
      rw [isHead]
      exact .inl (.comment text isHead)
  | doctype name => exact .inl (.idle rfl)
  | startTag name attributes selfClosing =>
      dsimp only
      split
      next named =>
        rw [isHead]
        exact .inl (.element isHead named
          (plants_insertHtml builder head name attributes))
      split
      next isHtml =>
        subst isHtml
        exact .inl (.merge attributes selfClosing)
      split
      next isOuter =>
        subst isOuter
        exact .inl (.idle (by simp [isIdle]))
      next notNamed _ _ =>
        refine .inr (mode_afterHead leaves rfl ?_ ?_)
        · rintro _ ⟨⟩
        · rintro _ _ _ ⟨⟩
          exact Bool.eq_false_iff.mpr notNamed
  | endTag name =>
      dsimp only
      split
      · exact .inr InsertionMode.noConfusion
      split
      · split
        next closes => exact .inl (.close closes)
        next => exact .inl (.idle rfl)
      · refine .inr (mode_afterHead leaves rfl ?_ ?_)
        · rintro _ ⟨⟩
        · rintro _ _ _ ⟨⟩

-- The head holds `noscript` and `link` side by side.
example :
    (({} : HtmlParser).parseDocument
      "<noscript><link></noscript>").value.toOption.map
        (·.children 2) = some [3, 4] := by
  decide +kernel

/-! ### Whole markups -/

variable {limit : Nat} {markup : String} {steps : List TokenStep}

/-- Throughout a document the open elements are nested.  Inside the body every
token adds its node to the innermost one, and inside the head it adds elements
and comments to the head. -/
theorem nested_of_reads_document (positive : 1 ≤ limit)
    (reads : (forDocument limit).Reads ((forDocument limit).lexerFor markup)
      steps last) :
    ∀ stepped ∈ steps, Nested stepped.before ∧ Nested stepped.after ∧
      (stepped.before.mode = .inBody →
        BodyStep stepped.before stepped.token stepped.after) ∧
      (stepped.before.mode = .inHead →
        HeadStep stepped.before stepped.token stepped.after ∨
          stepped.after.mode ≠ .inHead) := by
  have situated := situated_forDocument limit
  have kept := lasting_nested.reads reads situated
    ⟨⟨situated, formed_forDocument positive⟩, nested_forDocument limit⟩
  intro stepped member
  obtain ⟨⟨⟨stands, formed⟩, nested⟩, after⟩ := kept stepped member
  rw [reads.after_eq stepped member] at after ⊢
  refine ⟨nested, after.2, fun mode => ?_, fun mode => ?_⟩
  · exact bodyStep_step mode (stands.opened mode) stepped.token
  · exact headStep_step stands formed mode stepped.token

/-- The same holds throughout a fragment, which is in the body at all times. -/
theorem nested_of_reads_fragment {document : Document}
    (wellFormed : document.WellFormed) {context : NodeId} {element : Element}
    (present : document.element? context = some element)
    (positive : 1 ≤ limit) {lexer : Lexer}
    (reads : (forFragment document context limit).Reads lexer steps last) :
    ∀ stepped ∈ steps,
      stepped.before.mode = .inBody ∧
        stepped.before.document.Rightmost stepped.before.openNodes ∧
          BodyStep stepped.before stepped.token stepped.after := by
  intro stepped member
  obtain ⟨_, progress⟩ := reads.progress wellFormed
    (.ofFragment wellFormed present positive)
  have starts := (progress stepped member).starts
  refine ⟨starts.mode, starts.edge.rightmost, ?_⟩
  rw [reads.after_eq stepped member]
  exact bodyStep_step starts.mode starts.isOpen stepped.token

end Builder

end MarkupHarden.Html
