import MarkupHarden.Dom.Tree
import MarkupHarden.Proofs.Dom.Growth
import MarkupHarden.Proofs.Dom.Subtree

/-!
# Trees in documents

`tree` reads a subtree off a document, and `plant` adds one below a node.
Reading what was planted gives the tree back, and the rest of the document
stays as it was.
-/

namespace MarkupHarden.Dom

namespace Document

variable {document : Document} {parent : NodeId}

/-! ### Reading trees -/

/-- The tree at a node of a document. -/
def tree (document : Document) (id : NodeId) : Tree :=
  document.treeUpTo document.nodeCount id

/-- The trees at the children of a node. -/
def forest (document : Document) (id : NodeId) : List Tree :=
  (document.children id).map document.tree

namespace WellFormed

private theorem treeUpTo_succ {rank : NodeId → Nat}
    (bounded : ∀ id, rank id ≤ document.nodeCount)
    (increases : ∀ id, ∀ child ∈ document.children id, rank id < rank child) :
    ∀ limit id, document.nodeCount ≤ limit + rank id →
      document.treeUpTo (limit + 1) id = document.treeUpTo limit id := by
  intro limit
  induction limit with
  | zero =>
      intro id deep
      have leaf : document.children id = [] := by
        rw [List.eq_nil_iff_forall_not_mem]
        intro child member
        have larger := increases id child member
        have most := bounded child
        omega
      simp [treeUpTo, leaf]
  | succ limit induction =>
      intro id deep
      have same : ∀ child ∈ document.children id,
          document.treeUpTo (limit + 1) child =
            document.treeUpTo limit child := by
        intro child member
        have larger := increases id child member
        exact induction child (by omega)
      rw [treeUpTo, treeUpTo, List.map_congr_left same]

theorem tree_eq (wellFormed : document.WellFormed) (id : NodeId) :
    document.tree id =
      .node ((document.data? id).getD .document) (document.forest id) := by
  obtain ⟨rank, bounded, increases⟩ := wellFormed.exists_rank
  have larger : ∀ id, ∀ child ∈ document.children id, rank id < rank child := by
    intro id child member
    exact increases child id ((wellFormed.mem_children id child).mp member)
  rw [tree, ← treeUpTo_succ bounded larger document.nodeCount id (by omega),
    treeUpTo]
  rfl

/-- The tree at a node that cannot hold children is a leaf. -/
theorem tree_eq_leaf (wellFormed : document.WellFormed) {id : NodeId}
    {data : NodeData} (present : document.data? id = some data)
    (leaf : data.canHoldChildren = false) : document.tree id = .node data [] := by
  rw [wellFormed.tree_eq, present, forest,
    wellFormed.childless id data present leaf]
  rfl

theorem tree?_eq {id : NodeId} (inside : id < document.nodeCount) :
    document.tree? id = some (document.tree id) := by
  rw [tree?, if_pos (contains_iff.mpr inside), tree]

/-- Documents that agree on a subtree hold the same tree there. -/
theorem tree_congr {other : Document} (wellFormed : document.WellFormed)
    (otherWellFormed : other.WellFormed) (top : NodeId)
    (same : ∀ id, document.InSubtree id top →
      other.data? id = document.data? id ∧
        other.children id = document.children id) :
    other.tree top = document.tree top := by
  revert same
  refine wellFormed.induction_below (motive := fun top =>
    (∀ id, document.InSubtree id top →
      other.data? id = document.data? id ∧
        other.children id = document.children id) →
      other.tree top = document.tree top) ?_ top
  intro top induction same
  obtain ⟨sameData, sameChildren⟩ := same top .refl
  have below : other.forest top = document.forest top := by
    rw [forest, forest, sameChildren]
    apply List.map_congr_left
    intro child member
    have hangs := (wellFormed.mem_children top child).mp member
    exact induction child member fun id inside =>
      same id (Relation.ReflTransGen.tail inside hangs)
  rw [otherWellFormed.tree_eq, wellFormed.tree_eq, sameData, below]

end WellFormed

/-! ### Planting trees -/

mutual

/-- The document with a tree as the last child of a node. -/
def plant (document : Document) (parent : NodeId) : Tree → Document
  | .node data children =>
      (document.grown parent data).plantAll document.nodeCount children

/-- The document with trees as the last children of a node. -/
def plantAll (document : Document) (parent : NodeId) : List Tree → Document
  | [] => document
  | tree :: rest => (document.plant parent tree).plantAll parent rest

end

theorem plantAll_append (document : Document) (parent : NodeId)
    (first second : List Tree) :
    document.plantAll parent (first ++ second) =
      (document.plantAll parent first).plantAll parent second := by
  induction first generalizing document with
  | nil => rfl
  | cons tree rest induction =>
      rw [List.cons_append, plantAll, plantAll, induction]

end Document

mutual

/-- Only nodes that can hold children have any, and none is a document. -/
def Tree.Sound : Tree → Prop
  | .node data children =>
      data.kind ≠ .document ∧
        (data.canHoldChildren = false → children = []) ∧ SoundAll children

/-- Every tree of a list is sound. -/
def Tree.SoundAll : List Tree → Prop
  | [] => True
  | tree :: rest => tree.Sound ∧ SoundAll rest

end

theorem Tree.soundAll_append {first second : List Tree}
    (sound : SoundAll first) (rest : SoundAll second) :
    SoundAll (first ++ second) := by
  induction first with
  | nil => exact rest
  | cons tree first induction => exact ⟨sound.1, induction sound.2⟩

/-- Whether a tree is a text. -/
def Tree.isText : Tree → Bool
  | .node (.text _) _ => true
  | _ => false

namespace Document

variable {document : Document} {parent : NodeId}

/-- A document that differs from an earlier one in new nodes and in new last
children of one node. -/
structure Extends (document : Document) (parent : NodeId) (after : Document) :
    Prop where
  wellFormed : after.WellFormed
  nodeCount : document.nodeCount ≤ after.nodeCount
  data? : ∀ id < document.nodeCount, after.data? id = document.data? id
  children : ∀ id < document.nodeCount, id ≠ parent →
    after.children id = document.children id

namespace Extends

variable {after last : Document}

theorem refl (wellFormed : document.WellFormed) (parent : NodeId) :
    document.Extends parent document :=
  ⟨wellFormed, Nat.le_refl _, fun _ _ => rfl, fun _ _ _ => rfl⟩

theorem trans (first : document.Extends parent after)
    (second : after.Extends parent last) : document.Extends parent last where
  wellFormed := second.wellFormed
  nodeCount := Nat.le_trans first.nodeCount second.nodeCount
  data? := fun id inside =>
    (second.data? id (Nat.lt_of_lt_of_le inside first.nodeCount)).trans
      (first.data? id inside)
  children := fun id inside different =>
    (second.children id (Nat.lt_of_lt_of_le inside first.nodeCount)
      different).trans (first.children id inside different)

theorem grown (wellFormed : document.WellFormed)
    (holds : (document.data? parent).any NodeData.canHoldChildren = true)
    (data : NodeData) : document.Extends parent (document.grown parent data) := by
  obtain ⟨_, present, _⟩ := (Option.any_eq_true _ _).mp holds
  have inside := lt_of_data?_eq_some present
  refine ⟨wellFormed.grown holds data, by simp, ?_, ?_⟩
  · intro id old
    exact data?_grown_of_lt inside old
  · intro id _ different
    rw [children_grown inside, if_neg different]

/-- Changes below a node created in the meantime are not seen from before. -/
theorem trans_below {node : NodeId} (first : document.Extends parent after)
    (fresh : document.nodeCount ≤ node) (second : after.Extends node last) :
    document.Extends parent last where
  wellFormed := second.wellFormed
  nodeCount := Nat.le_trans first.nodeCount second.nodeCount
  data? := fun id inside =>
    (second.data? id (Nat.lt_of_lt_of_le inside first.nodeCount)).trans
      (first.data? id inside)
  children := fun id inside different =>
    (second.children id (Nat.lt_of_lt_of_le inside first.nodeCount)
      (Nat.ne_of_lt (Nat.lt_of_lt_of_le inside fresh))).trans
      (first.children id inside different)

theorem element? (extended : document.Extends parent after) {id : NodeId}
    (inside : id < document.nodeCount) :
    after.element? id = document.element? id := by
  unfold Document.element?
  rw [extended.data? id inside]

/-- Trees that do not hold the extended node stay as they are. -/
theorem tree (extended : document.Extends parent after)
    (wellFormed : document.WellFormed) {top : NodeId}
    (inside : top < document.nodeCount)
    (apart : ¬document.InSubtree parent top) :
    after.tree top = document.tree top := by
  refine wellFormed.tree_congr extended.wellFormed top fun id below => ?_
  have old := WellFormed.lt_of_inSubtree below inside
  exact ⟨extended.data? id old, extended.children id old
    fun same => apart (same ▸ below)⟩

end Extends

theorem WellFormed.forest_plant_eq (wellFormed : document.WellFormed)
    {after : Document} {tree : Tree}
    (extended : document.Extends parent after) (fresh : NodeId)
    (children : after.children parent = document.children parent ++ [fresh])
    (planted : after.tree fresh = tree) :
    after.forest parent = document.forest parent ++ [tree] := by
  have old : (document.children parent).map after.tree =
      (document.children parent).map document.tree := by
    apply List.map_congr_left
    intro child member
    have hangs := (wellFormed.mem_children parent child).mp member
    exact extended.tree wellFormed (wellFormed.child_lt member)
      (wellFormed.not_inSubtree_of_hangsUnder hangs)
  rw [forest, children, List.map_append, old, List.map_singleton, planted]
  rfl

theorem forest_grown_self (inside : parent < document.nodeCount)
    (data : NodeData) :
    (document.grown parent data).forest document.nodeCount = [] := by
  rw [forest, children_grown inside, if_neg (Nat.ne_of_lt inside).symm,
    WellFormed.children_of_absent (Nat.le_refl _)]
  rfl

mutual

/-- What planting a tree does to a document. -/
theorem WellFormed.plant :
    ∀ (tree : Tree) {document : Document} {parent : NodeId},
      document.WellFormed →
      (document.data? parent).any NodeData.canHoldChildren = true →
      tree.Sound →
        document.Extends parent (document.plant parent tree) ∧
          (document.plant parent tree).forest parent =
            document.forest parent ++ [tree]
  | .node data children, document, parent, wellFormed, holds,
      ⟨_, leaf, sound⟩ => by
      obtain ⟨_, present, _⟩ := (Option.any_eq_true _ _).mp holds
      have inside := lt_of_data?_eq_some present
      have first := Extends.grown wellFormed holds data
      have isNew : (document.grown parent data).data? document.nodeCount =
          some data := by
        rw [data?_grown inside, if_pos rfl]
      have emptyYet := forest_grown_self inside data
      have below : (document.grown parent data).Extends document.nodeCount
          (document.plant parent (.node data children)) ∧
            (document.plant parent (.node data children)).forest
              document.nodeCount = children := by
        rw [Document.plant]
        cases canHold : data.canHoldChildren with
        | false =>
            rw [leaf canHold, Document.plantAll]
            exact ⟨.refl first.wellFormed _, emptyYet⟩
        | true =>
            have newHolds : ((document.grown parent data).data?
                document.nodeCount).any NodeData.canHoldChildren = true := by
              simp [isNew, canHold]
            have rest := first.wellFormed.plantAll children newHolds sound
            rw [emptyYet] at rest
            exact rest
      obtain ⟨second, content⟩ := below
      have extended := first.trans_below (Nat.le_refl _) second
      have lessThan : parent < (document.grown parent data).nodeCount := by
        rw [nodeCount_grown]
        exact Nat.lt_succ_of_lt inside
      refine ⟨extended, wellFormed.forest_plant_eq extended
        document.nodeCount ?_ ?_⟩
      · rw [second.children parent lessThan (Nat.ne_of_lt inside),
          children_grown inside, if_pos rfl]
      · rw [second.wellFormed.tree_eq, content, second.data? _ (by simp), isNew]
        rfl

/-- What planting trees does to a document. -/
theorem WellFormed.plantAll :
    ∀ (trees : List Tree) {document : Document} {parent : NodeId},
      document.WellFormed →
      (document.data? parent).any NodeData.canHoldChildren = true →
      Tree.SoundAll trees →
        document.Extends parent (document.plantAll parent trees) ∧
          (document.plantAll parent trees).forest parent =
            document.forest parent ++ trees
  | [], document, parent, wellFormed, _, _ => by
      rw [Document.plantAll, List.append_nil]
      exact ⟨.refl wellFormed _, rfl⟩
  | tree :: rest, document, parent, wellFormed, holds,
      ⟨sound, restSound⟩ => by
      obtain ⟨_, present, _⟩ := (Option.any_eq_true _ _).mp holds
      have inside := lt_of_data?_eq_some present
      obtain ⟨first, firstForest⟩ := wellFormed.plant tree holds sound
      have stillHolds : ((document.plant parent tree).data? parent).any
          NodeData.canHoldChildren = true := by
        rw [first.data? parent inside]
        exact holds
      obtain ⟨second, secondForest⟩ :=
        first.wellFormed.plantAll rest stillHolds restSound
      rw [Document.plantAll, secondForest, firstForest, List.append_assoc]
      exact ⟨first.trans second, rfl⟩

end

/-- New text is not added to a last child that is no text. -/
theorem WellFormed.lastText?_eq_none (wellFormed : document.WellFormed)
    (noText : ((document.forest parent).getLast?).any Tree.isText = false) :
    document.lastText? parent = none := by
  rw [Option.eq_none_iff_forall_ne_some]
  intro ⟨last, text⟩ found
  obtain ⟨isLast, payload⟩ := lastText?_eq_some_iff.mp found
  have lastTree : (document.forest parent).getLast? =
      some (document.tree last) := by
    rw [forest, List.getLast?_map]
    rw [lastChild?] at isLast
    rw [isLast]
    rfl
  rw [lastTree, Option.any_some, wellFormed.tree_eq, payload] at noText
  contradiction

end Document

end MarkupHarden.Dom
