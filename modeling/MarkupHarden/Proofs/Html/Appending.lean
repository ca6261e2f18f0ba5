import MarkupHarden.Proofs.Dom.Appending
import MarkupHarden.Proofs.Html.BodyContent
import MarkupHarden.Proofs.Html.TokenSteps

/-!
# Fragments are appended

The markup of a fragment is added below its context, behind everything that was
there.  The open elements are an edge of the tree at all times, so that every
token adds its node in the last place.
-/

namespace MarkupHarden.Html

open Dom (Document Element NodeData NodeId)
open Dom.Document (Appended Edge)

/-- The text that a token adds. -/
def Token.ownText : Token → String
  | .text content => content
  | .doctype _ | .startTag _ _ _ | .endTag _ | .comment _ => ""

/-- The node that a tag or a comment stands for. -/
inductive Creates : Token → NodeData → Prop where
  | element {name : String} {attributes : TagAttributes} {selfClosing : Bool}
      (ns : Dom.Namespace) :
      Creates (.startTag name attributes selfClosing)
        (.element (elementOf ns name attributes))
  | comment (text : String) : Creates (.comment text) (.comment text)

theorem Creates.kind_ne {token : Token} {data : NodeData}
    (creates : Creates token data) : data.kind ≠ .text := by
  cases creates with
  | element ns => simp [NodeData.kind]
  | comment text => simp [NodeData.kind]

/-- The payloads, in the end, of the nodes that were created for a token. -/
def TokenStep.created (stepped : TokenStep) (later : Document) :
    List (Option NodeData) :=
  (List.range' stepped.before.document.nodeCount
    (stepped.after.document.nodeCount -
      stepped.before.document.nodeCount)).map later.data?

/-- Only texts are given other payloads. -/
def Preserves (before after : Document) : Prop :=
  ∀ id data, data.kind ≠ .text → before.data? id = some data →
    after.data? id = some data

namespace Builder

variable {start : Document} {context parent : NodeId} {limit : Nat}
  {builder after last : Builder} {token : Token} {data : NodeData}

/-- A builder for the content of `context` that has only appended nodes so
far. -/
structure Appends (start : Document) (context : NodeId) (limit : Nat)
    (builder : Builder) : Prop where
  mode : builder.mode = .inBody
  fragment : builder.fragment = true
  accepted : builder.refusal = none
  maxDepth : builder.maxDepth = limit
  appended : Appended start context limit builder.document
  edge : Edge start context limit builder.document builder.openNodes
  opened : ∀ node ∈ builder.openNodes, ∃ element,
    builder.document.element? node = some element

/-- What a token does to a builder that appends. -/
structure Progress (start : Document) (context : NodeId) (limit : Nat)
    (before : Builder) (token : Token) (after : Builder) : Prop where
  starts : Appends start context limit before
  appends : Appends start context limit after
  text : after.document.textContent context =
    before.document.textContent context ++ token.ownText
  preserves : Preserves before.document after.document
  creates : isIdle token = false → (∀ text, token ≠ .text text) →
    ∃ data, Creates token data ∧
      after.document.nodeCount = before.document.nodeCount + 1 ∧
        after.document.data? before.document.nodeCount = some data

theorem Narrows.document_eq (narrows : Narrows builder after) :
    after.document = builder.document := by
  obtain ⟨_, _, _, rfl⟩ := narrows
  rfl

namespace Appends

theorem isOpen (appends : Appends start context limit builder) :
    builder.openNodes ≠ [] := by
  intro none
  have ends := appends.edge.outermost
  rw [none] at ends
  contradiction

theorem narrow (appends : Appends start context limit builder)
    (narrows : Narrows builder after) :
    Appends start context limit after := by
  obtain ⟨nodes, within, some, rfl⟩ := narrows
  have notEmpty : nodes ≠ [] := by
    rcases some with rfl | notEmpty
    · exact appends.isOpen
    · exact notEmpty
  exact
    { appends with
      edge := appends.edge.suffix within notEmpty
      opened := fun node member => appends.opened node (within.subset member) }

section Current

variable (appends : Appends start context limit builder)
  (current : builder.current? = some parent)

include appends current

omit appends in
private theorem openNodes_eq :
    builder.openNodes = parent :: builder.openNodes.tail :=
  (List.cons_head?_tail current).symm

private theorem edge_current : Edge start context limit builder.document
    (parent :: builder.openNodes.tail) :=
  openNodes_eq current ▸ appends.edge

private theorem canHold :
    (builder.document.data? parent).any NodeData.canHoldChildren = true := by
  obtain ⟨element, present⟩ :=
    appends.opened parent (List.mem_of_head? current)
  rw [Document.element?_eq_some_iff.mp present]
  rfl

private theorem inside : parent < builder.document.nodeCount := by
  obtain ⟨element, present⟩ :=
    appends.opened parent (List.mem_of_head? current)
  exact Document.lt_of_data?_eq_some (Document.element?_eq_some_iff.mp present)

theorem attach_eq (notDocument : data.kind ≠ .document) :
    builder.attach parent data =
      (builder.document.nodeCount,
        { builder with document := builder.document.grown parent data }) :=
  Builder.attach_eq appends.appended.wellFormed (appends.canHold current)
    notDocument

private theorem element?_grown {node : NodeId} {element : Element}
    (present : builder.document.element? node = some element)
    (data : NodeData) :
    (builder.document.grown parent data).element? node = some element := by
  have isNode :=
    Document.lt_of_data?_eq_some (Document.element?_eq_some_iff.mp present)
  rw [Document.element?_grown_of_lt (appends.inside current) isNode, present]

/-- A node is added to the innermost open element. -/
theorem grow (data : NodeData) :
    Appends start context limit
      { builder with document := builder.document.grown parent data } where
  mode := appends.mode
  fragment := appends.fragment
  accepted := appends.accepted
  maxDepth := appends.maxDepth
  appended := (appends.edge_current current).grown appends.appended
    (appends.canHold current) data
  edge := by
    rw [openNodes_eq current]
    exact (appends.edge_current current).stays appends.appended
      (appends.canHold current) data
  opened := fun node member => by
    obtain ⟨element, present⟩ := appends.opened node member
    exact ⟨element, appends.element?_grown current present data⟩

/-- An element is added to the innermost open element and opened. -/
theorem grow_open (short : builder.openNodes.length < builder.maxDepth)
    (element : Element) :
    Appends start context limit
      { builder with
        document := builder.document.grown parent (.element element)
        openNodes := builder.document.nodeCount :: builder.openNodes } :=
  { appends.grow current (.element element) with
    edge := by
      rw [appends.maxDepth, openNodes_eq current] at short
      rw [openNodes_eq current]
      exact (appends.edge_current current).lengthened appends.appended
        (appends.canHold current) short (.element element)
    opened := by
      refine List.forall_mem_cons.mpr
        ⟨⟨element, ?_⟩, (appends.grow current (.element element)).opened⟩
      rw [Document.element?_eq_some_iff,
        Document.data?_grown (appends.inside current), if_pos rfl] }

theorem preserves_grown (data : NodeData) :
    Preserves builder.document (builder.document.grown parent data) := by
  intro id old _ present
  rw [Document.data?_grown_of_lt (appends.inside current)
    (Document.lt_of_data?_eq_some present), present]

theorem textContent_grown (data : NodeData) :
    (builder.document.grown parent data).textContent context =
      builder.document.textContent context ++ data.ownText :=
  (appends.edge_current current).rightmost.textContent_grown
    appends.appended.wellFormed (appends.canHold current)
    (appends.edge_current current).outermost data

/-- A token adds a node to the innermost open element. -/
private theorem progress_grown (later : Appends start context limit after)
    (grown : after.document = builder.document.grown parent data)
    (text : data.ownText = token.ownText)
    (creates : (∀ text, token ≠ .text text) → isIdle token = false →
      Creates token data) :
    Progress start context limit builder token after where
  starts := appends
  appends := later
  text := by rw [grown, appends.textContent_grown current, text]
  preserves := grown ▸ appends.preserves_grown current data
  creates := fun notIdle notText => by
    refine ⟨data, creates notText notIdle, ?_, ?_⟩
    · rw [grown, Document.nodeCount_grown]
    · rw [grown, Document.data?_grown (appends.inside current), if_pos rfl]

private theorem progress_plants {element : Element}
    (denotes : Denotes token element)
    (plants : Plants builder parent element after) :
    Progress start context limit builder token after := by
  have attached := appends.attach_eq current
    (by simp [NodeData.kind] : (NodeData.element element).kind ≠ .document)
  have textless : (NodeData.element element).ownText = token.ownText := by
    cases token with
    | text text => exact denotes.elim
    | _ => rfl
  have creates : (∀ text, token ≠ .text text) → isIdle token = false →
      Creates token (.element element) := by
    intro _ notIdle
    cases token with
    | startTag name attributes selfClosing =>
        obtain ⟨ns, rfl⟩ := denotes
        exact .element ns
    | endTag name => exact Bool.noConfusion notIdle
    | doctype name | text text | comment text => exact denotes.elim
  cases plants with
  | closed tooDeep =>
      rw [attached]
      exact appends.progress_grown current
        { appends.grow current (.element element) with } rfl textless creates
  | opened short =>
      rw [attached]
      exact appends.progress_grown current
        (appends.grow_open current short element) rfl textless creates

/-- Text grows the last text or becomes a new one. -/
private theorem progress_text (wellFormed : start.WellFormed)
    (text : String) :
    Progress start context limit builder (.text text)
      (builder.attachText (some parent) text) := by
  by_cases nonempty : text = ""
  · subst nonempty
    have same : builder.attachText (some parent) "" = builder := rfl
    rw [same]
    exact
      { starts := appends
        appends
        text := by simp [Token.ownText]
        preserves := fun _ _ _ present => present
        creates := fun _ notText => absurd rfl (notText "") }
  cases found : builder.document.lastText? parent with
  | none =>
      rw [attachText_eq_grown appends.appended.wellFormed
        (appends.canHold current) nonempty found]
      exact appends.progress_grown current (appends.grow current (.text text))
        rfl rfl fun notText => absurd rfl (notText text)
  | some pair =>
      obtain ⟨last, old⟩ := pair
      obtain ⟨_, isText⟩ := Document.lastText?_eq_some_iff.mp found
      have edge := appends.edge_current current
      rw [attachText_eq_setData nonempty found]
      refine
        { starts := appends
          appends :=
            { appends with
              appended := edge.setData appends.appended wellFormed found text
              edge := appends.edge.congr last _
              opened := fun node member => ?_ }
          text := edge.rightmost.textContent_setData
            appends.appended.wellFormed edge.outermost found text
          preserves := fun id data notText present => ?_
          creates := fun _ notText => absurd rfl (notText text) }
      · rw [Document.element?_setData_text isText]
        exact appends.opened node member
      · rw [Document.data?_setData_of_ne, present]
        rintro rfl
        rw [isText] at present
        cases present
        exact notText rfl

end Current

/-- Every token only appends. -/
theorem progress (appends : Appends start context limit builder)
    (wellFormed : start.WellFormed) (step : BodyStep builder token after) :
    Progress start context limit builder token after := by
  have unchanged (idle : isIdle token = true)
      (later : Appends start context limit after)
      (same : after.document = builder.document) :
      Progress start context limit builder token after :=
    { starts := appends
      appends := later
      text := by
        rw [same]
        cases token with
        | text text => exact Bool.noConfusion idle
        | _ => simp [Token.ownText]
      preserves := fun _ _ _ present => same ▸ present
      creates := fun notIdle => Bool.noConfusion (idle.symm.trans notIdle) }
  cases step with
  | text text current => exact appends.progress_text current wellFormed text
  | comment text current =>
      rw [appends.attach_eq current (by simp [NodeData.kind])]
      exact appends.progress_grown current
        (appends.grow current (.comment text)) rfl rfl fun _ _ => .comment text
  | element narrows current denotes plants closes =>
      have planted :=
        (appends.narrow narrows).progress_plants current denotes plants
      have before := narrows.document_eq
      have behind := closes.document_eq
      exact
        { starts := appends
          appends := planted.appends.narrow closes
          text := by rw [behind, planted.text, before]
          preserves := behind ▸ before ▸ planted.preserves
          creates := behind ▸ before ▸ planted.creates }
  | idle idle narrows =>
      exact unchanged idle (appends.narrow narrows) narrows.document_eq
  | stray name => exact unchanged rfl { appends with } rfl
  | merge _ narrows whole _ =>
      have fragment := (appends.narrow narrows).fragment
      exact Bool.noConfusion (whole.symm.trans fragment)

theorem ofFragment (wellFormed : start.WellFormed) {element : Element}
    (present : start.element? context = some element)
    (positive : 1 ≤ limit) :
    Appends start context limit (forFragment start context limit) where
  mode := rfl
  fragment := rfl
  accepted := rfl
  maxDepth := rfl
  appended := .refl wellFormed context limit
  edge :=
    { rightmost := List.isChain_singleton context
      outermost := rfl
      newer := List.forall_mem_singleton.mpr (.inl rfl)
      short := positive }
  opened := List.forall_mem_singleton.mpr ⟨element, present⟩

end Appends

/-! ### Whole fragments -/

namespace Reads

variable {lexer : Lexer} {steps : List TokenStep}

theorem progress (reads : Reads builder lexer steps last)
    (wellFormed : start.WellFormed)
    (appends : Appends start context limit builder) :
    Appends start context limit last ∧ ∀ stepped ∈ steps,
      Progress start context limit stepped.before stepped.token
        stepped.after := by
  induction reads with
  | done _ => exact ⟨appends, List.forall_mem_nil _⟩
  | @stopped builder _ _ token _ _ =>
      have stepped := appends.progress wellFormed
        (bodyStep_step appends.mode appends.isOpen token)
      exact ⟨stepped.appends, List.forall_mem_singleton.mpr stepped⟩
  | @step builder _ _ _ token _ _ _ _ later =>
      have stepped := appends.progress wellFormed
        (bodyStep_step appends.mode appends.isOpen token)
      obtain ⟨ended, each⟩ := later stepped.appends
      exact ⟨ended, List.forall_mem_cons.mpr ⟨stepped, each⟩⟩

theorem textContent_eq (reads : Reads builder lexer steps last)
    (progress : ∀ stepped ∈ steps,
      Progress start context limit stepped.before stepped.token
        stepped.after) :
    last.document.textContent context =
      builder.document.textContent context ++
        String.join (steps.map fun stepped => stepped.token.ownText) := by
  induction reads with
  | done _ => simp
  | stopped _ _ =>
      rw [(progress _ List.mem_cons_self).text]
      simp
  | step _ _ _ later =>
      rw [later fun stepped member =>
          progress stepped (List.mem_cons_of_mem _ member),
        (progress _ List.mem_cons_self).text]
      simp [String.append_assoc]

/-- What was created for a token is still there at the end. -/
theorem preserves (reads : Reads builder lexer steps last)
    (progress : ∀ stepped ∈ steps,
      Progress start context limit stepped.before stepped.token
        stepped.after) :
    Preserves builder.document last.document ∧ ∀ stepped ∈ steps,
      Preserves stepped.after.document last.document := by
  induction reads with
  | done _ => exact ⟨fun _ _ _ present => present, List.forall_mem_nil _⟩
  | stopped _ _ =>
      exact ⟨(progress _ List.mem_cons_self).preserves,
        List.forall_mem_singleton.mpr fun _ _ _ present => present⟩
  | step _ _ _ later =>
      have first := (progress _ List.mem_cons_self).preserves
      obtain ⟨rest, each⟩ := later fun stepped member =>
        progress stepped (List.mem_cons_of_mem _ member)
      refine ⟨?_, List.forall_mem_cons.mpr ⟨rest, each⟩⟩
      exact fun id data notText present =>
        rest id data notText (first id data notText present)

end Reads

/-- Exactly one node is created for a comment or a tag that is not ignored. -/
theorem Progress.created_eq {stepped : TokenStep} {later : Document}
    (progress : Progress start context limit stepped.before stepped.token
      stepped.after)
    (preserves : Preserves stepped.after.document later)
    (notIdle : isIdle stepped.token = false)
    (notText : ∀ text, stepped.token ≠ .text text) :
    ∃ data, Creates stepped.token data ∧
      stepped.created later = [some data] := by
  obtain ⟨data, creates, more, present⟩ := progress.creates notIdle notText
  refine ⟨data, creates, ?_⟩
  rw [TokenStep.created, more, Nat.add_sub_cancel_left]
  exact congrArg ([·]) (preserves _ data creates.kind_ne present)

end Builder

/-- Any markup can be parsed below any element, at most the limit deep.  Behind
everything that was there, one element is added for every start tag but those
of the outer elements and one comment for every comment, and all of the text. -/
theorem HtmlParser.parseFragment_appends {document : Document}
    (wellFormed : document.WellFormed) {context : NodeId} {element : Element}
    (present : document.element? context = some element)
    (parser : HtmlParser) (positive : 1 ≤ parser.maxDepth) (markup : String) :
    let builder := Builder.forFragment document context parser.maxDepth
    ∃ later steps last,
      (parser.parseFragment markup document context).value =
        (.ok (), later) ∧
      builder.Reads (builder.lexerFor markup) steps last ∧
      last.isStopped = false ∧ last.document = later ∧
      Appended document context parser.maxDepth later ∧
      later.textContent context = document.textContent context ++
        String.join (steps.map fun stepped => stepped.token.ownText) ∧
      ∀ stepped ∈ steps,
        (∀ name attributes selfClosing,
          stepped.token = .startTag name attributes selfClosing →
          name ∉ ["html", "head", "body", "frameset"] →
          ∃ ns, stepped.created later =
            [some (.element (elementOf ns name attributes))]) ∧
        ∀ text, stepped.token = .comment text →
          stepped.created later = [some (.comment text)] := by
  intro builder
  obtain ⟨steps, reads⟩ :=
    builder.exists_reads (builder.lexerFor markup)
  have run : builder.run markup =
      builder.consume (builder.lexerFor markup) := by
    rw [Builder.run_eq]
    rfl
  rw [← run] at reads
  obtain ⟨appends, progress⟩ := reads.progress wellFormed
    (.ofFragment wellFormed present positive)
  have goesOn : (builder.run markup).isStopped = false := by
    rw [Builder.isStopped, appends.accepted, appends.fragment]
    simp
  have parsed : (parser.parseFragment markup document context).value =
      (.ok (), (builder.run markup).document) := by
    have faultless : (builder.run markup).fault? = none := by
      rw [Builder.fault?, appends.accepted, goesOn]
      rfl
    unfold HtmlParser.parseFragment
    rw [present]
    simp only [Option.isNone_some, Bool.false_eq_true, if_false]
    rw [faultless]
  refine ⟨_, steps, _, parsed, reads, goesOn, rfl, appends.appended,
    reads.textContent_eq progress, ?_⟩
  intro stepped member
  have preserves := (reads.preserves progress).2 stepped member
  refine ⟨fun name attributes selfClosing isTag ordinary => ?_,
    fun text isComment => ?_⟩
  · obtain ⟨data, creates, created⟩ :=
      (progress stepped member).created_eq preserves
        (by rw [isTag, isIdle]; simpa using ordinary) (by simp [isTag])
    rw [isTag] at creates
    cases creates with
    | element ns => exact ⟨ns, created⟩
  · obtain ⟨data, creates, created⟩ :=
      (progress stepped member).created_eq preserves
        (by rw [isComment]; rfl) (by simp [isComment])
    rw [isComment] at creates
    cases creates
    exact created

/-- A body that ends in a text, as a place for further content. -/
def startedShell : Document :=
  Document.shell.grown 3 (.text "a")

theorem HtmlParser.parseFragment_appends_startedShell :
    startedShell.WellFormed ∧
      startedShell.element? 3 = some (.html "body") ∧
      1 ≤ ({ maxDepth := 2 } : HtmlParser).maxDepth ∧
      ∃ later,
        (({ maxDepth := 2 } : HtmlParser).parseFragment "b<p>c<!--d-->"
          startedShell 3).value = (.ok (), later) ∧
        Appended startedShell 3 2 later ∧ later.textContent 3 = "abc" := by
  have wellFormed : startedShell.WellFormed :=
    Document.wellFormed_shell.grown (by decide) (.text "a")
  have present : startedShell.element? 3 = some (.html "body") := by decide
  have text : (({ maxDepth := 2 } : HtmlParser).parseFragment "b<p>c<!--d-->"
      startedShell 3).value.2.textContent 3 = "abc" := by
    decide +kernel
  obtain ⟨later, _, _, parsed, _, _, _, appended, _⟩ :=
    HtmlParser.parseFragment_appends wellFormed present { maxDepth := 2 }
      (by decide) "b<p>c<!--d-->"
  rw [parsed] at text
  exact ⟨wellFormed, present, by decide, later, parsed, appended, text⟩

end MarkupHarden.Html
