import MarkupHarden.Proofs.Dom.Forest
import MarkupHarden.Proofs.Html.Appending
import MarkupHarden.Proofs.Html.Reachable

/-!
# Refused requests

A request to change a document is either carried out or refused.  Refusing comes
before every change, except that a text is created before it is put in: below a
node without children each refused text leaves one more node behind.
-/

namespace MarkupHarden

open Dom (Document Element NodeData NodeId Refusal)

namespace Dom.Document

variable {document source : Document} {id parent child old new : NodeId}
  {refusal : Refusal}

theorem appendChild_of_error
    (fails : (document.appendChild parent child).1 = .error refusal) :
    (document.appendChild parent child).2 = document := by
  unfold appendChild at fails ⊢
  split at fails
  next => rfl
  next => contradiction

theorem replaceChild_of_error
    (fails : (document.replaceChild old new).1 = .error refusal) :
    (document.replaceChild old new).2 = document := by
  unfold replaceChild at fails ⊢
  cases hangs : document.parent? old with
  | none => rfl
  | some parent =>
      simp only [hangs] at fails ⊢
      by_cases same : old = new
      · rw [if_pos same]
      · rw [if_neg same] at fails ⊢
        cases refused : document.replaceRefusal? parent new with
        | some _ => rfl
        | none =>
            rw [refused] at fails
            contradiction

theorem importNode_of_error
    (fails : (document.importNode source id).1 = .error refusal) :
    (document.importNode source id).2 = document := by
  unfold importNode at fails ⊢
  split
  · rfl
  · rfl
  · split at fails <;> simp_all

/-- A refused text stays behind as a node without a parent. -/
theorem WellFormed.appendText_of_error (wellFormed : document.WellFormed)
    {text : String}
    (fails : (document.appendText parent text).1 = .error refusal) :
    (document.appendText parent text).2 =
      (document.create (.text text)).2 := by
  have nonempty : text ≠ "" := by
    rintro rfl
    contradiction
  have outcome := wellFormed.textOutcome parent nonempty
  generalize appended : document.appendText parent text = result
    at outcome fails ⊢
  cases outcome with
  | extended _ _ _ => contradiction
  | added _ _ _ => contradiction
  | refused leaf _ =>
      obtain ⟨_, same⟩ := wellFormed.appendText_of_leaf leaf nonempty
      rw [← appended, same]

end Dom.Document

namespace Html

variable {document : Document}

/-- Below an element no markup is refused. -/
theorem HtmlParser.parseFragment_of_element (wellFormed : document.WellFormed)
    {context : NodeId} {element : Element}
    (present : document.element? context = some element)
    {parser : HtmlParser} (positive : 1 ≤ parser.maxDepth) (markup : String) :
    (parser.parseFragment markup document context).value.1 = .ok () := by
  let builder := Builder.forFragment document context parser.maxDepth
  obtain ⟨steps, reads⟩ := builder.exists_reads (builder.lexerFor markup)
  have run : builder.run markup =
      builder.consume (builder.lexerFor markup) := by
    rw [Builder.run_eq]
    rfl
  rw [← run] at reads
  obtain ⟨appends, _⟩ := reads.progress wellFormed
    (.ofFragment wellFormed present positive)
  have faultless : (builder.run markup).fault? = none := by
    rw [Builder.fault?, appends.accepted, Builder.isStopped, appends.accepted,
      appends.fragment]
    simp
  unfold HtmlParser.parseFragment
  rw [present]
  simp only [Option.isNone_some, Bool.false_eq_true, if_false]
  rw [faultless]

/-- A request to change a document. -/
inductive Request where
  | appendChild (parent child : NodeId)
  | appendText (parent : NodeId) (text : String)
  | replaceChild (old new : NodeId)
  | importNode (source : Document) (id : NodeId)
  | parseFragment (limit : Nat) (markup : String) (context : NodeId)

namespace Request

/-- What is answered to a request and the document behind it. -/
def perform (document : Document) : Request → Except Fault Unit × Document
  | appendChild parent child =>
      (document.appendChild parent child).map (·.mapError .refused) id
  | appendText parent text =>
      (document.appendText parent text).map (·.mapError .refused) id
  | replaceChild old new =>
      (document.replaceChild old new).map (·.mapError .refused) id
  | importNode source node =>
      (document.importNode source node).map
        (fun outcome => (outcome.mapError .refused).map fun _ => ()) id
  | parseFragment limit markup context =>
      ((HtmlParser.withMaxDepth limit).parseFragment markup document
        context).value

/-- What a request leaves behind when it is refused. -/
def leftover (document : Document) : Request → Document
  | appendText _ text => (document.create (.text text)).2
  | _ => document

private theorem exists_refusal {value : Type} {outcome : Except Refusal value}
    {fault : Fault} (fails : outcome.mapError Fault.refused = .error fault) :
    ∃ refusal, outcome = .error refusal := by
  cases outcome with
  | ok _ => contradiction
  | error refusal => exact ⟨refusal, rfl⟩

/-- Whatever a request asks for, nothing has changed when it is refused, except
that a refused text has been created. -/
theorem perform_of_error (reachable : Reachable document) (request : Request)
    {fault : Fault} (fails : (request.perform document).1 = .error fault) :
    (request.perform document).2 = request.leftover document := by
  have wellFormed := reachable.wellFormed
  cases request with
  | appendChild parent child =>
      obtain ⟨_, refused⟩ := exists_refusal fails
      exact Document.appendChild_of_error refused
  | appendText parent text =>
      obtain ⟨_, refused⟩ := exists_refusal fails
      exact wellFormed.appendText_of_error refused
  | replaceChild old new =>
      obtain ⟨_, refused⟩ := exists_refusal fails
      exact Document.replaceChild_of_error refused
  | importNode source node =>
      cases outcome : (document.importNode source node).1 with
      | ok copy => simp [perform, outcome, Except.mapError, Except.map] at fails
      | error _ => exact Document.importNode_of_error outcome
  | parseFragment limit markup context =>
      cases present : document.element? context with
      | none =>
          simp [perform, leftover, HtmlParser.parseFragment, present]
      | some element =>
          have positive : 1 ≤ (HtmlParser.withMaxDepth limit).maxDepth :=
            Nat.le_max_right limit 1
          have succeeds := HtmlParser.parseFragment_of_element wellFormed
            present positive markup
          rw [perform, succeeds] at fails
          contradiction

/-- A text is refused below a text, and yet the document has grown. -/
theorem perform_appendText_grows :
    let document := (Document.empty.create (.text "x")).2
    (perform document (.appendText 1 "y")).1 =
        .error (.refused (.childlessParent .text)) ∧
      document.nodeCount = 2 ∧
        (perform document (.appendText 1 "y")).2.nodeCount = 3 := by
  decide

end Request

end Html

end MarkupHarden
