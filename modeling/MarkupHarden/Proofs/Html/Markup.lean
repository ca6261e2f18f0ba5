import MarkupHarden.Html.Serializer
import MarkupHarden.Proofs.Dom.Tree

/-!
# Markup of trees

The serializer works through a list of steps with a bound on their number.  In
a well-formed document the bound is never reached, and what is written is the
markup of the tree, given here by recursion on the tree.
-/

namespace MarkupHarden.Html

open Dom (Document Element NodeData NodeId Tree)

mutual

/-- The markup of a tree whose text is written raw or not. -/
def treeMarkup (raw : Bool) : Tree → String
  | .node .document children => forestMarkup false children
  | .node (.doctype name) _ => "<!DOCTYPE " ++ name ++ ">"
  | .node (.element element) children =>
      startTagMarkup element ++
        (if endsAtOnce element then ""
        else
          forestMarkup (writesRawText element) children ++
            (if staysOpen element then "" else endTagMarkup element))
  | .node (.text text) _ => textMarkup raw text
  | .node (.comment text) _ => "<!--" ++ text ++ "-->"
  | .node (.processingInstruction target data) _ =>
      "<?" ++ target ++ " " ++ data ++ ">"

/-- The markup of neighbouring trees, one after the other. -/
def forestMarkup (raw : Bool) : List Tree → String
  | [] => ""
  | tree :: rest => treeMarkup raw tree ++ forestMarkup raw rest

end

theorem forestMarkup_append (raw : Bool) (first second : List Tree) :
    forestMarkup raw (first ++ second) =
      forestMarkup raw first ++ forestMarkup raw second := by
  induction first with
  | nil => simp [forestMarkup]
  | cons tree rest induction =>
      rw [List.cons_append, forestMarkup, forestMarkup, induction,
        String.append_assoc]

theorem treeMarkup_of_endsAtOnce {element : Element}
    (ends : endsAtOnce element = true) (raw : Bool) (children : List Tree) :
    treeMarkup raw (.node (.element element) children) =
      startTagMarkup element := by
  rw [treeMarkup, if_pos ends, String.append_empty]

/-- The markup of an element that has an end tag, with what follows it. -/
theorem toList_treeMarkup_element {element : Element}
    (ample : endsAtOnce element = false) (closes : staysOpen element = false)
    (raw : Bool) (children : List Tree) (rest : List Char) :
    (treeMarkup raw (.node (.element element) children)).toList ++ rest =
      (startTagMarkup element).toList ++
        ((forestMarkup (writesRawText element) children).toList ++
          ((endTagMarkup element).toList ++ rest)) := by
  simp [treeMarkup, ample, closes]

variable {document : Document}

/-! ### Doing the pending steps -/

/-- Doing the pending steps, first to last, comes to an end after some number of
steps, and that is what has been written by then. -/
inductive Finishes (document : Document) :
    List WriteStep → Nat → String → Prop where
  | done : Finishes document [] 0 ""
  | closing {id : NodeId} {pending : List WriteStep} {count : Nat}
      {markup : String} :
      Finishes document pending count markup →
      Finishes document (.closing id :: pending) (count + 1)
        (closingOf document id ++ markup)
  | opening {id : NodeId} {pending : List WriteStep} {count : Nat}
      {markup : String} :
      Finishes document ((openingOf document id).2 ++ pending) count markup →
      Finishes document (.opening id :: pending) (count + 1)
        ((openingOf document id).1 ++ markup)

theorem Finishes.writeSteps_eq {pending : List WriteStep} {count : Nat}
    {markup : String} (finishes : Finishes document pending count markup)
    {limit : Nat} (enough : count ≤ limit) :
    writeSteps document limit pending = markup := by
  induction finishes generalizing limit with
  | done => cases limit <;> rfl
  | closing _ induction =>
      obtain ⟨limit, rfl⟩ := Nat.exists_eq_add_of_le' enough
      rw [← Nat.add_assoc, writeSteps, induction (Nat.le_add_left _ _)]
  | opening _ induction =>
      obtain ⟨limit, rfl⟩ := Nat.exists_eq_add_of_le' enough
      rw [← Nat.add_assoc, writeSteps]
      simp only [induction (Nat.le_add_left _ _)]

/-- Opening a node writes its tree and then does what was pending, at the cost
of two steps for each node of the tree. -/
private def Writes (document : Document) (id : NodeId) : Prop :=
  ∀ pending count markup, Finishes document pending count markup →
    ∃ more ≤ 2 * (document.subtree id).length,
      Finishes document (.opening id :: pending) (more + count)
        (treeMarkup (isRawText document id) (document.tree id) ++ markup)

private theorem finishes_openings {raw : Bool} (ids : List NodeId)
    (writes : ∀ id ∈ ids, Writes document id)
    (isRaw : ∀ id ∈ ids, isRawText document id = raw)
    {pending : List WriteStep} {count : Nat} {markup : String}
    (finishes : Finishes document pending count markup) :
    ∃ more ≤ 2 * (document.subtrees ids).length,
      Finishes document (ids.map .opening ++ pending) (more + count)
        (forestMarkup raw (ids.map document.tree) ++ markup) := by
  induction ids with
  | nil => exact ⟨0, Nat.zero_le _, by simpa [forestMarkup] using finishes⟩
  | cons id ids induction =>
      obtain ⟨restCount, restCost, rest⟩ := induction
        (fun other member => writes other (List.mem_cons_of_mem _ member))
        (fun other member => isRaw other (List.mem_cons_of_mem _ member))
      obtain ⟨firstCount, firstCost, first⟩ :=
        writes id List.mem_cons_self _ _ _ rest
      refine ⟨firstCount + restCount, ?_, ?_⟩
      · rw [Document.subtrees_cons, List.length_append]
        omega
      · rw [isRaw id List.mem_cons_self] at first
        rw [List.map_cons, List.map_cons, forestMarkup, String.append_assoc,
          Nat.add_assoc]
        exact first

theorem isRawText_child (wellFormed : document.WellFormed)
    {parent child : NodeId} (member : child ∈ document.children parent) :
    isRawText document child =
      (document.element? parent).any writesRawText := by
  have hangs := (wellFormed.mem_children parent child).mp member
  rw [isRawText, hangs]
  rfl

private theorem writes_of_inside (wellFormed : document.WellFormed)
    (id : NodeId) : id < document.nodeCount → Writes document id := by
  refine wellFormed.induction_below
    (motive := fun id => id < document.nodeCount → Writes document id) ?_ id
  intro id induction inside pending count markup finishes
  have content {steps : List WriteStep} {after : Nat} {written : String}
      (finishes : Finishes document steps after written) :=
    finishes_openings (document.children id)
      (fun child member => induction child member (wellFormed.child_lt member))
      (fun child member => isRawText_child wellFormed member) finishes
  obtain ⟨data, present⟩ := Document.exists_data_of_lt inside
  -- What opening the node leaves to be done decides how the markup goes on.
  suffices opened : ∃ more ≤ 2 * (document.subtrees
        (document.children id)).length + 1, ∃ rest,
      Finishes document ((openingOf document id).2 ++ pending) (more + count)
        rest ∧
      (openingOf document id).1 ++ rest =
        treeMarkup (isRawText document id) (document.tree id) ++ markup by
    obtain ⟨more, cost, rest, continued, same⟩ := opened
    refine ⟨more + 1, ?_, ?_⟩
    · rw [wellFormed.subtree_eq inside, List.length_cons]
      omega
    · rw [Nat.add_right_comm, ← same]
      exact .opening continued
  rw [wellFormed.tree_eq, openingOf, present, Option.getD_some]
  cases data with
  | document =>
      have notElement : document.element? id = none := by
        simp [Document.element?, present]
      obtain ⟨more, cost, written⟩ := content finishes
      refine ⟨more, by omega, _, written, ?_⟩
      rw [notElement, treeMarkup, String.empty_append]
      rfl
  | element element =>
      have isElement : document.element? id = some element :=
        Document.element?_eq_some_iff.mpr present
      rw [isElement, Option.any_some] at content
      simp only [treeMarkup, Document.forest]
      cases ends : endsAtOnce element with
      | true => exact ⟨0, Nat.zero_le _, _, by simpa using finishes, by simp⟩
      | false =>
          cases stays : staysOpen element with
          | true =>
              obtain ⟨more, cost, written⟩ := content finishes
              refine ⟨more, by omega, _, written, ?_⟩
              simp [String.append_assoc]
          | false =>
              have closed : Finishes document (.closing id :: pending)
                  (count + 1) (closingOf document id ++ markup) :=
                .closing finishes
              rw [closingOf, isElement, Option.map_some,
                Option.getD_some] at closed
              obtain ⟨more, cost, written⟩ := content closed
              refine ⟨more + 1, by omega,
                forestMarkup (writesRawText element)
                    ((document.children id).map document.tree) ++
                  (endTagMarkup element ++ markup), ?_, ?_⟩
              · simpa [Nat.add_assoc, Nat.add_comm 1] using written
              · simp [String.append_assoc]
  | _ => exact ⟨0, Nat.zero_le _, markup, by simpa using finishes, rfl⟩

/-- Writing a node comes to an end. -/
theorem finishes_outer (wellFormed : document.WellFormed) {id : NodeId}
    (inside : id < document.nodeCount) :
    ∃ count ≤ 2 * document.nodeCount,
      Finishes document [.opening id] count
        (treeMarkup (isRawText document id) (document.tree id)) := by
  have short := wellFormed.length_subtree_le id
  obtain ⟨count, cost, finishes⟩ :=
    writes_of_inside wellFormed id inside [] 0 "" .done
  refine ⟨count, by omega, ?_⟩
  simpa using finishes

/-- Writing what a node holds comes to an end. -/
theorem finishes_inner (wellFormed : document.WellFormed) (id : NodeId) :
    ∃ count ≤ 2 * document.nodeCount,
      Finishes document ((document.children id).map .opening) count
        (forestMarkup ((document.element? id).any writesRawText)
          (document.forest id)) := by
  have short : (document.subtrees (document.children id)).length ≤
      document.nodeCount := by
    by_cases inside : id < document.nodeCount
    · have whole := wellFormed.length_subtree_le id
      rw [wellFormed.subtree_eq inside, List.length_cons] at whole
      omega
    · rw [Document.WellFormed.children_of_absent (Nat.le_of_not_lt inside)]
      simp
  obtain ⟨count, cost, finishes⟩ := finishes_openings (document.children id)
    (fun child member =>
      writes_of_inside wellFormed child (wellFormed.child_lt member))
    (fun child member => isRawText_child wellFormed member) .done
  refine ⟨count, by omega, ?_⟩
  simpa [Document.forest] using finishes

theorem serialize_outer (wellFormed : document.WellFormed) {id : NodeId}
    (inside : id < document.nodeCount) :
    serialize document id .outer =
      treeMarkup (isRawText document id) (document.tree id) := by
  obtain ⟨_, cost, finishes⟩ := finishes_outer wellFormed inside
  exact finishes.writeSteps_eq (Nat.le_succ_of_le cost)

theorem serialize_inner (wellFormed : document.WellFormed) (id : NodeId) :
    serialize document id .inner =
      forestMarkup ((document.element? id).any writesRawText)
        (document.forest id) := by
  obtain ⟨_, cost, finishes⟩ := finishes_inner wellFormed id
  exact finishes.writeSteps_eq (Nat.le_succ_of_le cost)

/-! ### Outer elements -/

/-- Nothing is peculiar in the writing of an outer element. -/
theorem writing_of_outer {element : Element} {name : String}
    (member : name ∈ ["html", "head", "body"])
    (named : element.isHtml name = true) :
    endsAtOnce element = false ∧ staysOpen element = false ∧
      writesRawText element = false ∧
        endTagMarkup element = "</" ++ name ++ ">" := by
  have facts : ∀ name ∈ ["html", "head", "body"],
      endsAtOnce { localName := name, ns := .html } = false ∧
        staysOpen { localName := name, ns := .html } = false ∧
          writesRawText { localName := name, ns := .html } = false := by
    decide
  obtain ⟨localName, ns, attributes⟩ := element
  rw [Element.isHtml, Bool.and_eq_true, decide_eq_true_eq,
    decide_eq_true_eq] at named
  obtain ⟨rfl, rfl⟩ := named
  obtain ⟨ample, closes, escaped⟩ := facts localName member
  exact ⟨ample, closes, escaped, rfl⟩

/-- The markup of an outer element is its content between its tags. -/
theorem treeMarkup_outer {element : Element} {name : String}
    (member : name ∈ ["html", "head", "body"])
    (named : element.isHtml name = true)
    (raw : Bool) (children : List Tree) :
    treeMarkup raw (.node (.element element) children) =
      startTagMarkup element ++
        (forestMarkup false children ++ ("</" ++ name ++ ">")) := by
  obtain ⟨ample, closes, escaped, endTag⟩ := writing_of_outer member named
  simp only [treeMarkup, ample, closes, escaped, endTag,
    Bool.false_eq_true, if_false]

/-! ### The two scopes -/

/-- The markup of what a tree holds. -/
def contentMarkup : Tree → String
  | .node (.element element) children =>
      forestMarkup (writesRawText element) children
  | .node _ children => forestMarkup false children

theorem innerHtml_eq (wellFormed : document.WellFormed) (id : NodeId) :
    innerHtml document id = contentMarkup (document.tree id) := by
  rw [innerHtml, serialize_inner wellFormed, wellFormed.tree_eq,
    Document.element?]
  rcases document.data? id with _ | data
  · rfl
  · cases data <;> rfl

/-- Only text is written in a way that depends on its parent. -/
theorem treeMarkup_of_not_text {tree : Tree} (notText : tree.isText = false)
    (raw : Bool) : treeMarkup raw tree = treeMarkup false tree := by
  obtain ⟨data, children⟩ := tree
  cases data with
  | text text => contradiction
  | _ => simp only [treeMarkup]

theorem outerHtml_eq (wellFormed : document.WellFormed) {id : NodeId}
    (inside : id < document.nodeCount)
    (notText : (document.tree id).isText = false) :
    outerHtml document id = treeMarkup false (document.tree id) := by
  rw [outerHtml, serialize_outer wellFormed inside,
    treeMarkup_of_not_text notText]

end MarkupHarden.Html
