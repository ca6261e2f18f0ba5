import MarkupHarden.Proofs.Html.Shaping

/-!
# What the head holds

Whatever the markup, the children of `head` are comments, white space and
elements that may stand there, and below the latter there is only text.
`Furnished` is the invariant.  Once the body is open, all open elements are away
from the head, so that it stays as it was left.
-/

namespace MarkupHarden.Html

open Dom (Document Element NodeData NodeId)

/-- What may stand directly below `head`. -/
def isHeadContent : NodeData → Bool
  | .element element =>
      element.ns = .html && isHeadElement element.localName
  | .text text => Builder.isWhitespace text
  | .comment _ => true
  | _ => false

variable {document : Document} {head parent : NodeId} {data : NodeData}

/-! ### Heads -/

/-- The node is neither the head nor directly below it. -/
def AwayFrom (document : Document) (head node : NodeId) : Prop :=
  node ≠ head ∧ document.parent? node ≠ some head

/-- What stands below a head, one and two levels down. -/
structure HeadHolds (document : Document) (head : NodeId) : Prop where
  content : ∀ id, document.parent? id = some head →
    (document.data? id).any isHeadContent = true
  texts : ∀ id, document.parent? id = some head →
    ∀ child, document.parent? child = some id →
      ∃ text, document.data? child = some (.text text)

/-- A node that could not stand in the head does not. -/
theorem HeadHolds.parent?_ne (holds : HeadHolds document head) {id : NodeId}
    (present : document.data? id = some data)
    (other : isHeadContent data = false) :
    document.parent? id ≠ some head := by
  intro hangs
  have isContent := holds.content id hangs
  rw [present, Option.any_some, other] at isContent
  contradiction

theorem HeadHolds.grown (holds : HeadHolds document head)
    (wellFormed : document.WellFormed) (inside : parent < document.nodeCount)
    (atHead : parent = head → isHeadContent data = true)
    (below : document.parent? parent = some head →
      ∃ text, data = .text text) :
    HeadHolds (document.grown parent data) head := by
  have hangsOld : ∀ {id above : NodeId}, id ≠ document.nodeCount →
      (document.grown parent data).parent? id = some above →
        document.parent? id = some above := by
    intro id above old hangs
    rwa [Document.parent?_grown inside, if_neg old] at hangs
  have hangsNew : ∀ {above : NodeId},
      (document.grown parent data).parent? document.nodeCount = some above →
        parent = above := by
    intro above hangs
    rw [Document.parent?_grown inside, if_pos rfl] at hangs
    exact Option.some.inj hangs
  constructor
  · intro id hangs
    rw [Document.data?_grown inside]
    split
    next isNew =>
      rw [isNew] at hangs
      exact atHead (hangsNew hangs)
    next old => exact holds.content id (hangsOld old hangs)
  · intro id hangs child under
    have old : id ≠ document.nodeCount := by
      rintro rfl
      by_cases isNew : child = document.nodeCount
      · rw [isNew] at under
        exact absurd inside (hangsNew under ▸ Nat.lt_irrefl _)
      · exact absurd (wellFormed.parent_lt (hangsOld isNew under))
          (Nat.lt_irrefl _)
    have hangsHere := hangsOld old hangs
    rw [Document.data?_grown inside]
    split
    next isNew =>
      rw [isNew] at under
      obtain ⟨text, same⟩ := below (hangsNew under ▸ hangsHere)
      exact ⟨text, congrArg some same⟩
    next notNew => exact holds.texts id hangsHere child (hangsOld notNew under)

/-- A payload may give way to a similar one. -/
theorem HeadHolds.setData (holds : HeadHolds document head) {node : NodeId}
    {old : NodeData} (present : document.data? node = some old)
    (content : document.parent? node = some head →
      isHeadContent data = true)
    (texts : ∀ text, old = .text text → ∃ other, data = .text other) :
    HeadHolds (document.setData node data) head := by
  constructor
  · intro id hangs
    rw [Document.parent?_setData] at hangs
    rw [Document.data?_setData]
    split
    next same =>
      subst same
      rw [present]
      exact content hangs
    next => exact holds.content id hangs
  · intro id hangs child under
    rw [Document.parent?_setData] at hangs under
    obtain ⟨text, isText⟩ := holds.texts id hangs child under
    rw [Document.data?_setData]
    split
    next same =>
      subst same
      rw [isText] at present
      obtain ⟨other, rfl⟩ := texts text (Option.some.inj present).symm
      exact ⟨other, by rw [isText]; rfl⟩
    next => exact ⟨text, isText⟩

private theorem not_isHeadContent_of_isRoot {element : Element}
    (root : isRoot element = true) :
    isHeadContent (.element element) = false := by
  simp only [isRoot, Bool.and_eq_true, List.contains_iff_mem] at root
  obtain ⟨_, member⟩ := root
  generalize named : element.localName = name at member
  simp only [List.mem_cons, List.not_mem_nil, or_false] at member
  rcases member with rfl | rfl | rfl <;>
    simp [isHeadContent, named, isHeadElement]

private theorem isHeadContent_congr {first second : Element}
    (same : SameName first second) :
    isHeadContent (.element first) = isHeadContent (.element second) := by
  simp [isHeadContent, same.1, same.2]

namespace Builder

variable {builder : Builder}

/-- A builder whose document has a head with nothing amiss in it, if it has one
yet. -/
structure Furnished (builder : Builder) : Prop where
  holds : ∀ head, builder.head = some head → HeadHolds builder.document head
  away : builder.mode = .inBody → ∀ head, builder.head = some head →
    ∀ node ∈ builder.openNodes, AwayFrom builder.document head node

/-- Away from the head, if there is one. -/
def IsAway (builder : Builder) (node : NodeId) : Prop :=
  ∀ head, builder.head = some head → AwayFrom builder.document head node

namespace Furnished

/-- The document node and the outer elements are not inside the head. -/
private theorem isAway_of_not_content (furnished : Furnished builder)
    (present : builder.document.data? parent = some data)
    (other : isHeadContent data = false)
    (notHead : builder.head ≠ some parent) : IsAway builder parent := by
  intro head isHead
  refine ⟨?_, (furnished.holds head isHead).parent?_ne present other⟩
  rintro rfl
  exact notHead isHead

private theorem isAway_root (furnished : Furnished builder)
    (formed : Formed builder) : IsAway builder Document.root := by
  apply furnished.isAway_of_not_content formed.rooted rfl
  intro isHead
  exact (formed.ample_outer (Or.inr (Or.inl isHead))).1 rfl

private theorem isAway_html (furnished : Furnished builder)
    (formed : Formed builder) {html : NodeId}
    (isHtml : builder.html = some html) : IsAway builder html := by
  obtain ⟨element, present, root⟩ := formed.outer (Or.inl isHtml)
  apply furnished.isAway_of_not_content
    (Document.element?_eq_some_iff.mp present)
    (not_isHeadContent_of_isRoot root)
  exact fun isHead => formed.html_ne_head isHead isHtml

private theorem isAway_current (furnished : Furnished builder)
    (mode : builder.mode = .inBody)
    (current : builder.current? = some parent) : IsAway builder parent :=
  fun head isHead =>
    furnished.away mode head isHead parent (List.mem_of_head? current)

/-- The head is not directly below itself. -/
private theorem parent?_head_ne (furnished : Furnished builder)
    (formed : Formed builder) (isHead : builder.head = some parent) :
    builder.document.parent? parent ≠ some parent := by
  obtain ⟨element, present, root⟩ := formed.outer (Or.inr (Or.inl isHead))
  exact (furnished.holds parent isHead).parent?_ne
    (Document.element?_eq_some_iff.mp present)
    (not_isHeadContent_of_isRoot root)

/-! ### Adding nodes -/

private theorem away_grown (formed : Formed builder)
    (inside : parent < builder.document.nodeCount) {node : NodeId}
    (member : node ∈ builder.openNodes)
    (away : AwayFrom builder.document head node) :
    AwayFrom (builder.document.grown parent data) head node := by
  have old := Nat.ne_of_lt (formed.lt_of_isOpen member)
  refine ⟨away.1, ?_⟩
  rw [Document.parent?_grown inside, if_neg old]
  exact away.2

private theorem attach (furnished : Furnished builder)
    (formed : Formed builder) (inside : parent < builder.document.nodeCount)
    (atHead : builder.head = some parent → isHeadContent data = true)
    (below : ∀ head, builder.head = some head →
      builder.document.parent? parent = some head → ∃ text, data = .text text) :
    Furnished
      { builder with document := builder.document.grown parent data } where
  holds := by
    intro head isHead
    apply (furnished.holds head isHead).grown formed.wellFormed inside
    · exact fun same => atHead (isHead.trans (congrArg some same.symm))
    · exact below head isHead
  away := fun mode head isHead node member =>
    away_grown formed inside member (furnished.away mode head isHead node member)

/-- Away from the head anything can be added. -/
private theorem attach_away (furnished : Furnished builder)
    (formed : Formed builder) (isParent : IsParent builder.document parent)
    (away : IsAway builder parent) {data : NodeData}
    (notDocument : data.kind ≠ .document) :
    Furnished (builder.attach parent data).2 := by
  rw [formed.attach_eq isParent notDocument]
  apply furnished.attach formed (formed.lt_of_isParent isParent)
  · exact fun isHead => absurd rfl (away parent isHead).1
  · exact fun head isHead hangs => absurd hangs (away head isHead).2

/-- Below the head what may stand there can be added. -/
private theorem attach_head (furnished : Furnished builder)
    (formed : Formed builder) (isHead : builder.head = some parent)
    (content : isHeadContent data = true) (notDocument : data.kind ≠ .document) :
    Furnished (builder.attach parent data).2 := by
  have isParent := formed.isParent_outer (Or.inr (Or.inl isHead))
  rw [formed.attach_eq isParent notDocument]
  apply furnished.attach formed (formed.lt_of_isParent isParent)
  · exact fun _ => content
  · intro head isOther hangs
    cases isHead.symm.trans isOther
    exact absurd hangs (furnished.parent?_head_ne formed isHead)

/-- Where elements and comments are added, what may stand in the head can be
added. -/
private theorem attach_host (furnished : Furnished builder)
    (formed : Formed builder) (hosts : Hosts builder parent)
    (content : builder.mode = .inHead → isHeadContent data = true)
    (notDocument : data.kind ≠ .document) :
    Furnished (builder.attach parent data).2 := by
  rcases hosts with ⟨mode, current⟩ | ⟨mode, isHead⟩
  · exact furnished.attach_away formed
      (formed.isParent_open (List.mem_of_head? current))
      (furnished.isAway_current mode current) notDocument
  · exact furnished.attach_head formed isHead (content mode) notDocument

private theorem attachText (furnished : Furnished builder)
    (formed : Formed builder) (isParent : IsParent builder.document parent)
    {text : String}
    (blank : builder.head = some parent → isWhitespace text = true) :
    Furnished (builder.attachText (some parent) text) := by
  rcases formed.attachText_cases isParent text with
    same | ⟨_, _, same⟩ | ⟨last, old, _, found, same⟩
  · rw [same]
    exact furnished
  · rw [same]
    apply furnished.attach formed (formed.lt_of_isParent isParent)
    · exact blank
    · exact fun _ _ _ => ⟨text, rfl⟩
  · obtain ⟨isLast, isText⟩ := Document.lastText?_eq_some_iff.mp found
    have hangs := (formed.wellFormed.mem_children parent last).mp
      (List.mem_of_getLast? isLast)
    rw [same]
    constructor
    · intro head isHead
      have holds := furnished.holds head isHead
      apply holds.setData isText ?_ fun _ _ => ⟨_, rfl⟩
      intro below
      cases hangs.symm.trans below
      have oldBlank := holds.content last below
      rw [isText] at oldBlank
      exact isWhitespace_append oldBlank (blank isHead)
    · intro mode head isHead node member
      have away := furnished.away mode head isHead node member
      exact ⟨away.1, by rw [Document.parent?_setData]; exact away.2⟩

/-- The element of a tag in the head may stand there. -/
private theorem isHeadContent_of_inserts {ns : Dom.Namespace} {name : String}
    {attributes : TagAttributes}
    (inserts : Inserts builder parent ns name attributes)
    (mode : builder.mode = .inHead) :
    isHeadContent (.element (elementOf ns name attributes)) = true := by
  obtain ⟨rfl, named⟩ := inserts.head mode
  rw [elementOf_eq inserts.tag]
  simp [isHeadContent, elementSpelling, named]

private theorem attach_inserts (furnished : Furnished builder)
    (formed : Formed builder) {ns : Dom.Namespace} {name : String}
    {attributes : TagAttributes}
    (inserts : Inserts builder parent ns name attributes) :
    Furnished
      (builder.attach parent (.element (elementOf ns name attributes))).2 :=
  furnished.attach_host formed inserts.hosts (isHeadContent_of_inserts inserts)
    (by simp [NodeData.kind])

/-! ### Moves -/

private theorem supply (furnished : Furnished builder)
    (situated : Situated builder) (formed : Formed builder) {after : Builder}
    (supply : Supply builder after) : Furnished after := by
  cases supply with
  | @merge node attributes _ isOuter _ =>
      obtain ⟨element, present, root, merged⟩ :=
        formed.mergeAttributes_eq isOuter attributes
      have isElement := Document.element?_eq_some_iff.mp present
      have same := sameName_addAttributes element attributes
      rw [merged]
      constructor
      · intro head isHead
        have holds := furnished.holds head isHead
        apply holds.setData isElement ?_ nofun
        intro hangs
        have content := holds.content node hangs
        rw [isElement, Option.any_some] at content
        rw [isHeadContent_congr same]
        exact content
      · intro mode head isHead other member
        have away := furnished.away mode head isHead other member
        exact ⟨away.1, by rw [Document.parent?_setData]; exact away.2⟩
  | enterHtml mode =>
      have parts := situated.parts_of_mode mode (by decide)
      rw [HasParts, mode] at parts
      rw [formed.enterHtml_eq]
      constructor
      · intro head isHead
        cases parts.2.1.symm.trans isHead
      · exact InsertionMode.noConfusion
  | @enterHead html mode isHtml =>
      have inside := formed.lt_of_isParent (formed.isParent_outer (Or.inl isHtml))
      -- Nothing hangs under the new node.
      have childless : ∀ id, (builder.document.grown html
          (.element (.html "head"))).parent? id ≠
            some builder.document.nodeCount := by
        intro id hangs
        rw [Document.parent?_grown inside] at hangs
        split at hangs
        · rw [Option.some.inj hangs] at inside
          exact Nat.lt_irrefl _ inside
        · exact Nat.lt_irrefl _ (formed.wellFormed.parent_lt hangs)
      rw [formed.enterHead_eq isHtml]
      constructor
      · rintro _ ⟨⟩
        exact ⟨fun id hangs => absurd hangs (childless id),
          fun id hangs => absurd hangs (childless id)⟩
      · exact InsertionMode.noConfusion
  | @enterBody html mode isHtml =>
      have isParent := formed.isParent_outer (Or.inl isHtml)
      have inside := formed.lt_of_isParent isParent
      have away := furnished.isAway_html formed isHtml
      have attached := furnished.attach_away formed isParent away
        (by simp [NodeData.kind] :
          (NodeData.element (.html "body")).kind ≠ .document)
      rw [formed.attach_eq isParent (by simp [NodeData.kind])] at attached
      rw [formed.enterBody_eq isHtml]
      refine ⟨attached.holds, ?_⟩
      intro _ head isHead node member
      have older := formed.lt_of_isParent
        (formed.isParent_outer (Or.inr (Or.inl isHead)))
      rw [List.mem_singleton.mp member]
      refine ⟨(Nat.ne_of_lt older).symm, ?_⟩
      rw [Document.parent?_grown inside, if_pos rfl]
      exact fun same => (away head isHead).1 (Option.some.inj same)

/-- Elements are closed, or the body is not open. -/
private theorem narrow (furnished : Furnished builder) {nodes : List NodeId}
    {mode : InsertionMode}
    (narrows : mode = .inBody →
      builder.mode = .inBody ∧ nodes <:+ builder.openNodes) :
    Furnished { builder with openNodes := nodes, mode } where
  holds := furnished.holds
  away := by
    intro inBody head isHead node member
    obtain ⟨before, suffix⟩ := narrows inBody
    exact furnished.away before head isHead node (suffix.subset member)

theorem shift (furnished : Furnished builder) (situated : Situated builder)
    (formed : Formed builder) {after : Builder} (shift : Shift builder after) :
    Furnished after := by
  cases shift with
  | supply supply => exact furnished.supply situated formed supply
  | close suffix _ => exact furnished.narrow fun mode => ⟨mode, suffix⟩
  | stray name => exact ⟨furnished.holds, furnished.away⟩
  | doctype _ _ =>
      exact furnished.attach_away formed (Or.inl rfl)
        (furnished.isAway_root formed) (by simp [NodeData.kind])
  | comment place _ =>
      have notDocument : ∀ text, (NodeData.comment text).kind ≠ .document := by
        simp [NodeData.kind]
      rcases place with ⟨_, rfl⟩ | ⟨_, isHtml⟩ | ⟨_, isHtml⟩ | hosts
      · exact furnished.attach_away formed (Or.inl rfl)
          (furnished.isAway_root formed) (notDocument _)
      · exact furnished.attach_away formed
          (formed.isParent_outer (Or.inl isHtml))
          (furnished.isAway_html formed isHtml) (notDocument _)
      · exact furnished.attach_away formed
          (formed.isParent_outer (Or.inl isHtml))
          (furnished.isAway_html formed isHtml) (notDocument _)
      · exact furnished.attach_host formed hosts (fun _ => rfl) (notDocument _)
  | text text place =>
      rcases place with ⟨_, current, notHead⟩ | ⟨hosts, blank⟩
      · exact furnished.attachText formed
          (formed.isParent_open (List.mem_of_head? current))
          fun isHead => absurd isHead notHead
      · rcases hosts with ⟨mode, current⟩ | ⟨mode, isHead⟩
        · exact furnished.attachText formed
            (formed.isParent_open (List.mem_of_head? current))
            fun isHead => absurd rfl
              (furnished.isAway_current mode current _ isHead).1
        · exact furnished.attachText formed
            (formed.isParent_outer (Or.inr (Or.inl isHead)))
            fun _ => blank mode
  | space _ isHtml blank =>
      exact furnished.attachText formed (formed.isParent_outer (Or.inl isHtml))
        fun _ => blank
  | leaf inserts _ => exact furnished.attach_inserts formed inserts
  | flatten inserts _ _ =>
      have attached := furnished.attach_inserts formed inserts
      exact ⟨attached.holds, attached.away⟩
  | closeInHead mode _ _ =>
      exact furnished.narrow fun inBody =>
        absurd (mode.symm.trans inBody) (by decide)
  | leaveHead _ _ => exact furnished.narrow InsertionMode.noConfusion
  | reenterHead _ _ => exact furnished.narrow InsertionMode.noConfusion

theorem opening (furnished : Furnished builder) (formed : Formed builder)
    {switch : Option TextSwitch} {after : Builder}
    (opening : Opening builder switch after) : Furnished after := by
  cases opening with
  | @opened parent ns name attributes inserts _ _ =>
      have attached := furnished.attach_inserts formed inserts
      have isParent : IsParent builder.document parent := by
        rcases inserts.hosts with ⟨_, current⟩ | ⟨_, isHead⟩
        · exact formed.isParent_open (List.mem_of_head? current)
        · exact formed.isParent_outer (Or.inr (Or.inl isHead))
      have inside := formed.lt_of_isParent isParent
      rw [formed.attach_eq isParent (by simp [NodeData.kind])] at attached ⊢
      refine ⟨attached.holds, ?_⟩
      intro inBody head isHead node member
      rcases List.mem_cons.mp member with rfl | old
      · rcases inserts.hosts with ⟨mode, current⟩ | ⟨inHead, _⟩
        · have older := formed.lt_of_isParent
            (formed.isParent_outer (Or.inr (Or.inl isHead)))
          refine ⟨(Nat.ne_of_lt older).symm, ?_⟩
          rw [Document.parent?_grown inside, if_pos rfl]
          have away := furnished.isAway_current mode current head isHead
          exact fun same => away.1 (Option.some.inj same)
        · exact absurd (inHead.symm.trans inBody) (by decide)
      · exact attached.away inBody head isHead node old

end Furnished

/-- Every move leaves the head with nothing amiss in it. -/
theorem lasting_furnished : Lasting fun builder =>
    (Situated builder ∧ Formed builder) ∧ Furnished builder where
  shift := fun _ _ shift ⟨formed, furnished⟩ =>
    ⟨lasting_formed.shift _ _ shift formed,
      furnished.shift formed.1 formed.2 shift⟩
  opening := fun _ _ _ opening ⟨formed, furnished⟩ =>
    ⟨lasting_formed.opening _ _ _ opening formed,
      furnished.opening formed.2 opening⟩

theorem furnished_forDocument (limit : Nat) :
    Furnished (forDocument limit) where
  holds := nofun
  away := InsertionMode.noConfusion

end Builder

/-- Whatever the markup, the head of a document that is parsed from it holds
what may stand there. -/
theorem HtmlParser.headHolds_parseDocument {parser : HtmlParser}
    {markup : String} {document : Document} (positive : 1 ≤ parser.maxDepth)
    (parsed : (parser.parseDocument markup).value = .ok document)
    {head : NodeId} (named : document.isHtmlElement head "head" = true) :
    HeadHolds document head := by
  obtain ⟨rfl, _⟩ := Builder.eq_run_of_parseDocument parsed
  have situated := Builder.situated_forDocument parser.maxDepth
  have start := Builder.formed_forDocument positive
  obtain ⟨⟨_, formed⟩, furnished⟩ := Builder.lasting_furnished.run situated
    ⟨⟨situated, start⟩, Builder.furnished_forDocument _⟩ markup
  apply furnished.holds head
  rcases formed.eq_outer (by simp) named with ⟨other, _⟩ | ⟨_, isHead⟩ | ⟨other, _⟩
  · exact absurd other (by decide)
  · exact isHead
  · exact absurd other (by decide)

end MarkupHarden.Html
