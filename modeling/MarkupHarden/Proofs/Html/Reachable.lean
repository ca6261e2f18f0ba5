import MarkupHarden.Proofs.Dom.LinkRequests
import MarkupHarden.Proofs.Html.Editing

/-!
# Documents that can be made

`Reachable` collects the documents that can be made from the empty one and from
the shell: by creating, appending, detaching, replacing and copying nodes, by
parsing markup, and by changing attributes.  No request is required to be
sensible or to succeed.  All links of such a document agree.
-/

namespace MarkupHarden.Html

open Dom (Document Element LinkTable NodeData NodeId)

/-- The documents that any sequence of requests can make, each with whatever
nodes it is asked for and whether it is refused or not. -/
inductive Reachable : Document → Prop where
  | empty : Reachable .empty
  | shell : Reachable .shell
  | parsed {parser : HtmlParser} {markup : String} {document : Document} :
      (parser.parseDocument markup).value = .ok document → Reachable document
  | create {document : Document} (data : NodeData) :
      Reachable document → Reachable (document.create data).2
  | appendChild {document : Document} (parent child : NodeId) :
      Reachable document → Reachable (document.appendChild parent child).2
  | appendText {document : Document} (parent : NodeId) (text : String) :
      Reachable document → Reachable (document.appendText parent text).2
  | detach {document : Document} (id : NodeId) :
      Reachable document → Reachable (document.detach id)
  | replaceChild {document : Document} (old new : NodeId) :
      Reachable document → Reachable (document.replaceChild old new).2
  | importNode {document source : Document} (id : NodeId) :
      Reachable document → Reachable source →
      Reachable (document.importNode source id).2
  | parseFragment {document : Document} (parser : HtmlParser) (markup : String)
      (context : NodeId) :
      Reachable document →
      Reachable (parser.parseFragment markup document context).value.2
  /-- An element gets other attributes, or any other change of itself. -/
  | edit {document : Document} {id : NodeId} {element : Element}
      (changed : Element) :
      document.element? id = some element → Reachable document →
      Reachable (document.setData id (.element changed))

theorem durable_wellFormed : Durable Document.WellFormed where
  appendNew := fun _ parent data wellFormed => wellFormed.appendNew parent data
  appendText := fun _ parent text wellFormed =>
    wellFormed.appendText parent text
  setElement := fun _ _ _ changed present wellFormed =>
    wellFormed.setData_element changed present

theorem Reachable.wellFormed {document : Document}
    (reachable : Reachable document) : document.WellFormed := by
  induction reachable with
  | empty => exact Document.wellFormed_empty
  | shell => exact Document.wellFormed_shell
  | parsed succeeded =>
      exact durable_wellFormed.parseDocument Document.wellFormed_empty succeeded
  | create data _ wellFormed => exact wellFormed.create data
  | appendChild parent child _ wellFormed =>
      exact wellFormed.appendChild parent child
  | appendText parent text _ wellFormed =>
      exact wellFormed.appendText parent text
  | detach id _ wellFormed => exact wellFormed.detach id
  | replaceChild old new _ wellFormed => exact wellFormed.replaceChild old new
  | importNode id _ _ wellFormed sourceWellFormed =>
      exact wellFormed.importNode sourceWellFormed id
  | parseFragment parser markup context _ wellFormed =>
      exact durable_wellFormed.parseFragment wellFormed parser markup context
  | edit changed present _ wellFormed =>
      exact wellFormed.setData_element changed present

/-! ### Links -/

/-- Parsing changes links by requests to them. -/
theorem durable_made : Durable fun document =>
    document.WellFormed ∧ LinkTable.Made document.links where
  appendNew := by
    rintro document parent data ⟨wellFormed, made⟩
    refine ⟨wellFormed.appendNew parent data, ?_⟩
    have created := LinkTable.Made.create data made
    rw [wellFormed.linksFollow.create] at created
    have appended := (wellFormed.create data).linksFollow.appendChild? parent
      document.nodeCount
    rw [← Document.appendNew_eq_appendChild] at appended
    exact .appendChild _ _ appended created
  appendText := by
    rintro document parent text ⟨wellFormed, made⟩
    exact ⟨wellFormed.appendText parent text,
      .appendText _ _ (wellFormed.linksFollow.appendText? parent text) made⟩
  setElement := by
    rintro document id element changed present ⟨wellFormed, made⟩
    have payload := Document.element?_eq_some_iff.mp present
    have found : document.links.data? id = some (.element element) := by
      rw [Document.data?_links, payload]
    have changes := wellFormed.linksFollow.setData? id
      (Document.lt_of_data?_eq_some payload) (.element changed)
    exact ⟨wellFormed.setData_element changed present,
      .edit changed found changes made⟩

theorem Reachable.made {document : Document} (reachable : Reachable document) :
    LinkTable.Made document.links := by
  induction reachable with
  | empty => exact Document.empty_links ▸ .empty
  | shell => exact .shell Document.shell?_links
  | parsed succeeded =>
      exact (durable_made.parseDocument
        ⟨Document.wellFormed_empty, Document.empty_links ▸ .empty⟩ succeeded).2
  | @create document data reachable made =>
      have created := LinkTable.Made.create data made
      rw [reachable.wellFormed.linksFollow.create] at created
      exact created
  | appendChild parent child reachable made =>
      exact .appendChild _ _
        (reachable.wellFormed.linksFollow.appendChild? parent child) made
  | appendText parent text reachable made =>
      exact .appendText _ _
        (reachable.wellFormed.linksFollow.appendText? parent text) made
  | detach id reachable made =>
      exact .detach _ (reachable.wellFormed.linksFollow.detach? id) made
  | replaceChild old new reachable made =>
      exact .replaceChild _ _
        (reachable.wellFormed.linksFollow.replaceChild? old new) made
  | importNode id reachable source made sourceMade =>
      exact .importNode id (reachable.wellFormed.linksFollow.importNode? _
        source.wellFormed id) made sourceMade
  | parseFragment parser markup context reachable made =>
      exact (durable_made.parseFragment ⟨reachable.wellFormed, made⟩ parser
        markup context).2
  | edit changed present reachable made =>
      exact (durable_made.setElement _ _ _ changed present
        ⟨reachable.wellFormed, made⟩).2

/-- A table that requests to tables can make holds the links of a document that
requests to documents can make. -/
theorem exists_reachable_of_made {table : LinkTable} (made : table.Made) :
    ∃ document, Reachable document ∧ document.links = table := by
  induction made with
  | empty => exact ⟨.empty, .empty, Document.empty_links.symm⟩
  | shell made =>
      rw [Document.shell?_links] at made
      exact ⟨.shell, .shell, Option.some.inj made⟩
  | create data _ before =>
      obtain ⟨document, reachable, rfl⟩ := before
      rw [reachable.wellFormed.linksFollow.create]
      exact ⟨_, .create data reachable, rfl⟩
  | appendChild parent child outcome _ before =>
      obtain ⟨document, reachable, rfl⟩ := before
      rw [reachable.wellFormed.linksFollow.appendChild?] at outcome
      exact ⟨_, .appendChild parent child reachable,
        (Prod.mk.inj (Option.some.inj outcome)).2⟩
  | appendText parent text outcome _ before =>
      obtain ⟨document, reachable, rfl⟩ := before
      rw [reachable.wellFormed.linksFollow.appendText?] at outcome
      exact ⟨_, .appendText parent text reachable,
        (Prod.mk.inj (Option.some.inj outcome)).2⟩
  | detach id outcome _ before =>
      obtain ⟨document, reachable, rfl⟩ := before
      rw [reachable.wellFormed.linksFollow.detach?] at outcome
      exact ⟨_, .detach id reachable, Option.some.inj outcome⟩
  | replaceChild old new outcome _ before =>
      obtain ⟨document, reachable, rfl⟩ := before
      rw [reachable.wellFormed.linksFollow.replaceChild?] at outcome
      exact ⟨_, .replaceChild old new reachable,
        (Prod.mk.inj (Option.some.inj outcome)).2⟩
  | importNode id outcome _ _ before source =>
      obtain ⟨document, reachable, rfl⟩ := before
      obtain ⟨source, sourceReachable, rfl⟩ := source
      rw [reachable.wellFormed.linksFollow.importNode? source
        sourceReachable.wellFormed] at outcome
      exact ⟨_, .importNode id reachable sourceReachable,
        (Prod.mk.inj (Option.some.inj outcome)).2⟩
  | edit changed present outcome _ before =>
      obtain ⟨document, reachable, rfl⟩ := before
      rw [Document.data?_links] at present
      rw [reachable.wellFormed.linksFollow.setData? _
        (Document.lt_of_data?_eq_some present)] at outcome
      exact ⟨_, .edit changed (Document.element?_eq_some_iff.mpr present)
        reachable, Option.some.inj outcome⟩

/-- Whatever is done to a document, every link of it names one of its nodes, the
children of a node can be read in both directions, no other node names it as its
parent, no node lies above itself, and only documents and elements have
children.  The links are those that come about when nothing but links is ever
rewritten, and no request comes to rewrite a node that is not there. -/
theorem links_agree :
    (∀ document, Reachable document →
      document.links.Linked ∧ document.LinksFollow) ∧
    (∀ table : LinkTable, table.Made ↔
      ∃ document, Reachable document ∧ document.links = table) := by
  refine ⟨?_, ?_⟩
  · intro document reachable
    exact ⟨reachable.wellFormed.linked, reachable.wellFormed.linksFollow⟩
  · intro table
    constructor
    · exact exists_reachable_of_made
    · rintro ⟨document, reachable, rfl⟩
      exact reachable.made

/-- The shell with its body moved before its head, below an unknown node, and
in the place of its own descendant, once as a document and once as links. -/
theorem links_agree_moved :
    let moved := ((((Document.shell.replaceChild 2 3).2.appendChild 99
      3).2.appendText 3 "text").2.replaceChild 4 3).2
    Reachable moved ∧ moved.links.Linked ∧ moved.links.Made := by
  intro moved
  have reachable : Reachable moved := .replaceChild 4 3 (.appendText 3 "text"
    (.appendChild 99 3 (.replaceChild 2 3 .shell)))
  exact ⟨reachable, (links_agree.1 moved reachable).1,
    (links_agree.2 moved.links).mpr ⟨moved, reachable, rfl⟩⟩

end MarkupHarden.Html
