import Mathlib.Data.List.Induction
import MarkupHarden.Proofs.Dom.Attributes
import MarkupHarden.Proofs.Text.LetterCase

/-!
# Edited attributes

An element is created without attributes and gets them by edits.  Whatever the
edits are, the attributes are what a replay of the edits on a list of pairs
gives, and every name is answered with what was last written under it.
-/

namespace MarkupHarden.Dom

/-! ### Attribute lists without repeated keys -/

namespace Attributes

variable {key : String} {attributes : Attributes}

theorem map_of_not_mem (absent : key ∉ keys attributes) (value : String) :
    (attributes.map fun pair => if pair.1 = key then (key, value) else pair) =
      attributes := by
  conv_rhs => rw [← List.map_id attributes]
  apply List.map_congr_left
  intro pair member
  rw [if_neg]
  · rfl
  · rintro rfl
    exact absent (List.mem_map_of_mem member)

theorem update_of_mem (distinct : (keys attributes).Nodup)
    (present : key ∈ keys attributes) (value : String) :
    update key value attributes = attributes.map fun pair =>
      if pair.1 = key then (key, value) else pair := by
  induction attributes with
  | nil => contradiction
  | cons pair rest induction =>
      obtain ⟨name, old⟩ := pair
      obtain ⟨fresh, others⟩ := List.nodup_cons.mp distinct
      rw [update, List.map_cons]
      split
      next same =>
        -- No later pair has the key, so rewriting them all changes none.
        rw [map_of_not_mem (same ▸ fresh)]
      next different =>
        have later := (List.mem_cons.mp present).resolve_left
          (Ne.symm different)
        rw [induction others later]

theorem erase_eq_filter (distinct : (keys attributes).Nodup) (key : String) :
    erase key attributes = attributes.filter fun pair => pair.1 != key := by
  induction attributes with
  | nil => rfl
  | cons pair rest induction =>
      obtain ⟨name, old⟩ := pair
      obtain ⟨fresh, others⟩ := List.nodup_cons.mp distinct
      rw [erase]
      split
      next same =>
        have kept : ∀ other ∈ rest, (other.1 != key) = true := by
          intro other member
          refine bne_iff_ne.mpr fun isKey => fresh ?_
          have inside := List.mem_map_of_mem (f := Prod.fst) member
          rw [isKey, ← same] at inside
          exact inside
        rw [List.filter_cons, if_neg (by simp [same]),
          List.filter_eq_self.mpr kept]
      next different =>
        rw [List.filter_cons, if_pos (bne_iff_ne.mpr different),
          induction others]

end Attributes

/-! ### Edits -/

/-- Two names for the same attribute of elements in a namespace. -/
def SameAttribute (ns : Namespace) (first second : String) : Prop :=
  first = second ∨ (ns = .html ∧ Text.SameLetters first second)

instance (ns : Namespace) (first second : String) :
    Decidable (SameAttribute ns first second) :=
  inferInstanceAs (Decidable (_ ∨ _))

namespace Element

/-- An edit of one attribute: writing it, writing it unless it exists, and
removing it. -/
inductive Edit where
  | set (name value : String)
  | add (name value : String)
  | remove (name : String)
  deriving DecidableEq, Repr

namespace Edit

/-- The element behind an edit. -/
def perform (element : Element) : Edit → Element
  | set name value => element.setAttribute name value
  | add name value => (element.addAttribute name value).2
  | remove name => (element.removeAttribute name).2

/-- The same edit of a list of pairs without repeated keys: an old key keeps its
place, a new one comes last and removal keeps the order of the rest. -/
def replay (keyOf : String → String) (pairs : List (String × String)) :
    Edit → List (String × String)
  | set name value =>
      if keyOf name ∈ pairs.map Prod.fst then
        pairs.map fun pair =>
          if pair.1 = keyOf name then (keyOf name, value) else pair
      else pairs ++ [(keyOf name, value)]
  | add name value =>
      if keyOf name ∈ pairs.map Prod.fst then pairs
      else pairs ++ [(keyOf name, value)]
  | remove name => pairs.filter fun pair => pair.1 != keyOf name

/-- What was last written under `name`, given what was last written before the
edit. -/
def follow (ns : Namespace) (name : String) (old : Option String) :
    Edit → Option String
  | set other value => if SameAttribute ns other name then some value else old
  | add other value =>
      if SameAttribute ns other name then old.or (some value) else old
  | remove other => if SameAttribute ns other name then none else old

end Edit

/-- The element behind a list of edits. -/
def edited (element : Element) (edits : List Edit) : Element :=
  edits.foldl Edit.perform element

/-- What an element in a namespace is after edits, when it had no attributes
before them. -/
structure Follows (ns : Namespace) (edits : List Edit) (element : Element) :
    Prop where
  within : element.ns = ns
  distinct : element.attributes.keys.Nodup
  folded : ns = .html →
    ∀ key ∈ element.attributes.keys, ∀ c ∈ key.toList, ¬c.isUpper = true
  replayed : element.attributes =
    edits.foldl (Edit.replay element.attributeKey) []
  found : ∀ name, element.attribute? name =
    edits.foldl (Edit.follow ns name) none

/-- How adding an attribute depends on whether it is missing. -/
structure AddsMissing (element : Element) (name value : String) : Prop where
  missing : (element.addAttribute name value).1 = true ↔
    element.attribute? name = none
  appended : (element.addAttribute name value).1 = true ↔
    (element.addAttribute name value).2.attributes =
      element.attributes ++ [(element.attributeKey name, value)]
  kept : ∀ other old, element.attribute? other = some old →
    (element.addAttribute name value).2.attribute? other = some old

/-- How an element in a namespace stores attributes by name. -/
structure StoresByName (ns : Namespace) (element : Element) : Prop where
  same : ∀ first second,
    element.attributeKey first = element.attributeKey second ↔
      SameAttribute ns first second
  self : ∀ name, SameAttribute ns (element.attributeKey name) name

variable {element : Element} {ns : Namespace} {edits : List Edit}
  {edit : Edit} {first second name value : String}

/-! ### Names -/

theorem attributeKey_congr {other : Element} (same : element.ns = other.ns) :
    element.attributeKey = other.attributeKey := by
  funext name
  rw [attributeKey, attributeKey, same]

theorem attributeKey_eq_iff :
    element.attributeKey first = element.attributeKey second ↔
      SameAttribute element.ns first second := by
  unfold attributeKey SameAttribute
  cases element.ns with
  | html =>
      rw [Text.lower_eq_lower_iff]
      constructor
      · exact fun same => Or.inr ⟨rfl, same⟩
      · rintro (rfl | ⟨-, same⟩)
        · exact Text.lower_eq_lower_iff.mp rfl
        · exact same
  | svg => simp
  | mathml => simp

theorem attributeKey_attributeKey :
    element.attributeKey (element.attributeKey name) =
      element.attributeKey name := by
  unfold attributeKey
  cases element.ns with
  | html => exact Text.lower_lower name
  | svg => rfl
  | mathml => rfl

theorem storesByName (element : Element) : StoresByName element.ns element where
  same := fun _ _ => attributeKey_eq_iff
  self := fun _ => attributeKey_eq_iff.mp attributeKey_attributeKey

theorem not_isUpper_of_mem_attributeKey (html : element.ns = .html) {c : Char}
    (member : c ∈ (element.attributeKey name).toList) : ¬c.isUpper = true := by
  rw [attributeKey, html] at member
  exact Text.not_isUpper_of_mem_lower member

theorem hasAttribute_iff : element.hasAttribute name = true ↔
    element.attributeKey name ∈ element.attributes.keys := by
  rw [hasAttribute_eq, attribute?, Option.isSome_iff_ne_none, ne_eq,
    Attributes.find?_eq_none_iff, not_not]

/-! ### One edit -/

theorem addAttribute_of_has (present : element.hasAttribute name = true) :
    element.addAttribute name value = (false, element) :=
  if_pos present

theorem addAttribute_of_missing (missing : ¬element.hasAttribute name = true) :
    element.addAttribute name value = (true, element.setAttribute name value) :=
  if_neg missing

theorem Edit.ns_perform (element : Element) (edit : Edit) :
    (edit.perform element).ns = element.ns := by
  cases edit with
  | set name value => rfl
  | remove name => rfl
  | add name value =>
      rw [perform, addAttribute]
      split <;> rfl

theorem Edit.attributes_perform (distinct : element.attributes.keys.Nodup)
    (edit : Edit) : (edit.perform element).attributes =
      edit.replay element.attributeKey element.attributes := by
  cases edit with
  | set name value =>
      change Attributes.update _ _ _ = _
      rw [replay]
      split
      next present => exact Attributes.update_of_mem distinct present value
      next absent => exact Attributes.update_of_not_mem absent value
  | add name value =>
      rw [perform, replay]
      split
      next present => rw [addAttribute_of_has (hasAttribute_iff.mpr present)]
      next absent =>
        rw [addAttribute_of_missing (mt hasAttribute_iff.mp absent)]
        exact Attributes.update_of_not_mem absent value
  | remove name => exact Attributes.erase_eq_filter distinct _

theorem attribute?_setAttribute (element : Element)
    (first value second : String) :
    (element.setAttribute first value).attribute? second =
      if SameAttribute element.ns first second then some value
      else element.attribute? second := by
  change Attributes.find? (element.attributeKey second)
    (Attributes.update (element.attributeKey first) value _) = _
  simp only [← attributeKey_eq_iff]
  split
  next same => rw [same, Attributes.find?_update_self]
  next different =>
    exact Attributes.find?_update_of_ne (Ne.symm different) value _

theorem attribute?_removeAttribute (distinct : element.attributes.keys.Nodup)
    (first second : String) :
    (element.removeAttribute first).2.attribute? second =
      if SameAttribute element.ns first second then none
      else element.attribute? second := by
  change Attributes.find? (element.attributeKey second)
    (Attributes.erase (element.attributeKey first) _) = _
  simp only [← attributeKey_eq_iff]
  split
  next same => rw [same, Attributes.find?_erase_self distinct]
  next different =>
    exact Attributes.find?_erase_of_ne (Ne.symm different) _

theorem attribute?_congr (same : SameAttribute element.ns first second) :
    element.attribute? first = element.attribute? second := by
  rw [attribute?, attributeKey_eq_iff.mpr same, attribute?]

theorem attribute?_addAttribute (element : Element)
    (first value second : String) :
    (element.addAttribute first value).2.attribute? second =
      if SameAttribute element.ns first second then
        (element.attribute? second).or (some value)
      else element.attribute? second := by
  by_cases present : element.hasAttribute first = true
  · rw [addAttribute_of_has present]
    split
    next same =>
      rw [hasAttribute_eq, attribute?_congr same] at present
      rw [Option.or_of_isSome present]
    next => rfl
  · rw [addAttribute_of_missing present, attribute?_setAttribute]
    refine ite_congr rfl (fun same => ?_) fun _ => rfl
    rw [hasAttribute_eq, attribute?_congr same, Option.not_isSome_iff_eq_none]
      at present
    rw [present, Option.none_or]

theorem Edit.attribute?_perform (distinct : element.attributes.keys.Nodup)
    (edit : Edit) (name : String) : (edit.perform element).attribute? name =
      edit.follow element.ns name (element.attribute? name) := by
  cases edit with
  | set other value => exact attribute?_setAttribute element other value name
  | add other value => exact attribute?_addAttribute element other value name
  | remove other => exact attribute?_removeAttribute distinct other name

theorem addsMissing (element : Element) (name value : String) :
    AddsMissing element name value := by
  have kept : ∀ other old, element.attribute? other = some old →
      (element.addAttribute name value).2.attribute? other = some old := by
    intro other old found
    rw [attribute?_addAttribute, found]
    split <;> rfl
  by_cases present : element.hasAttribute name = true
  · have found := present
    rw [hasAttribute_eq, Option.isSome_iff_ne_none] at found
    rw [addAttribute_of_has present] at kept
    constructor <;> rw [addAttribute_of_has present]
    · simp [found]
    · simp
    · exact kept
  · have absent := mt hasAttribute_iff.mpr present
    have missing := present
    rw [hasAttribute_eq, Option.not_isSome_iff_eq_none] at missing
    have appended := Attributes.update_of_not_mem absent value
    rw [addAttribute_of_missing present] at kept
    constructor <;> rw [addAttribute_of_missing present]
    · simp [missing]
    · exact iff_of_true rfl appended
    · exact kept

/-! ### Runs of edits -/

theorem Edit.nodup_perform (distinct : element.attributes.keys.Nodup)
    (edit : Edit) : (edit.perform element).attributes.keys.Nodup := by
  cases edit with
  | set name value => exact Attributes.nodup_keys_update distinct _ value
  | add name value =>
      rw [perform, addAttribute]
      split
      · exact distinct
      · exact Attributes.nodup_keys_update distinct _ value
  | remove name => exact Attributes.nodup_keys_erase distinct _

theorem mem_keys_setAttribute {key : String}
    (member : key ∈ (element.setAttribute name value).attributes.keys) :
    key ∈ element.attributes.keys ∨ key = element.attributeKey name := by
  change key ∈ Attributes.keys (Attributes.update _ _ _) at member
  rw [Attributes.update_keys] at member
  split at member
  · exact Or.inl member
  · exact (List.mem_append.mp member).imp_right List.mem_singleton.mp

theorem Edit.mem_keys_perform {key : String}
    (member : key ∈ (edit.perform element).attributes.keys) :
    key ∈ element.attributes.keys ∨
      ∃ name, key = element.attributeKey name := by
  cases edit with
  | set name value =>
      exact (mem_keys_setAttribute member).imp_right
        fun stored => ⟨name, stored⟩
  | add name value =>
      rw [perform, addAttribute] at member
      split at member
      · exact Or.inl member
      · exact (mem_keys_setAttribute member).imp_right
          fun stored => ⟨name, stored⟩
  | remove name =>
      change key ∈ Attributes.keys (Attributes.erase _ _) at member
      rw [Attributes.erase_keys] at member
      exact Or.inl (List.mem_of_mem_erase member)

namespace Follows

theorem named (localName : String) (ns : Namespace) :
    Follows ns [] (Element.named localName ns) where
  within := rfl
  distinct := List.nodup_nil
  folded := by
    intro _ key member
    contradiction
  replayed := rfl
  found := fun _ => rfl

theorem perform (follows : Follows ns edits element) (edit : Edit) :
    Follows ns (edits ++ [edit]) (edit.perform element) := by
  have within := (edit.ns_perform element).trans follows.within
  constructor
  case within => exact within
  case distinct => exact edit.nodup_perform follows.distinct
  case folded =>
    intro html key member
    rcases Edit.mem_keys_perform member with old | ⟨name, rfl⟩
    · exact follows.folded html key old
    · intro c
      exact not_isUpper_of_mem_attributeKey (follows.within.trans html)
  case replayed =>
    rw [List.foldl_concat, edit.attributes_perform follows.distinct,
      attributeKey_congr (edit.ns_perform element), ← follows.replayed]
  case found =>
    intro name
    rw [List.foldl_concat, edit.attribute?_perform follows.distinct,
      follows.within, follows.found name]

end Follows

theorem follows_edited (localName : String) (ns : Namespace)
    (edits : List Edit) :
    Follows ns edits ((named localName ns).edited edits) := by
  induction edits using List.reverseRecOn with
  | nil => exact .named localName ns
  | append_singleton edits edit follows =>
      rw [edited, List.foldl_concat]
      exact follows.perform edit

/-- The attributes of every element are an ordered map, whose keys are the names
up to case in the HTML namespace and the names as they are in others. -/
theorem edited_named (localName : String) (ns : Namespace)
    (edits : List Edit) :
    let element := (named localName ns).edited edits
    Follows ns edits element ∧ StoresByName ns element ∧
      ∀ name value, AddsMissing element name value := by
  have follows := follows_edited localName ns edits
  refine ⟨follows, ?_, addsMissing _⟩
  have stores := storesByName ((named localName ns).edited edits)
  rwa [follows.within] at stores

example : ((html "a").edited
    [.set "Href" "/x", .add "HREF" "/y", .add "rel" "me", .set "title" "x",
      .set "href" "/z", .remove "Title"]).attributes =
    [("href", "/z"), ("rel", "me")] := by
  decide

end Element

end MarkupHarden.Dom
