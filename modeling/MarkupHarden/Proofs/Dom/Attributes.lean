import MarkupHarden.Dom.Element

/-!
# Reading attributes

What an element answers about its attributes after one of them was written or
removed.  Two names stand for the same attribute of every element as soon as
they are equal up to case, so lemmas about distinct attributes ask for names
that differ even in lower case.  `Edited.placed` says where the keys of a list
stand after any number of edits.
-/

namespace MarkupHarden.Dom

namespace Attributes

variable {key other : String}

theorem find?_update_self (key value : String) (attributes : Attributes) :
    find? key (update key value attributes) = some value := by
  induction attributes with
  | nil => simp [update, find?]
  | cons pair rest induction =>
      obtain ⟨name, old⟩ := pair
      by_cases same : name = key
      · simp [update, find?, same]
      · simp [update, find?, same, induction]

theorem find?_update_of_ne (different : key ≠ other) (value : String)
    (attributes : Attributes) :
    find? key (update other value attributes) = find? key attributes := by
  induction attributes with
  | nil => simp [update, find?, different.symm]
  | cons pair rest induction =>
      obtain ⟨name, old⟩ := pair
      by_cases same : name = other
      · simp [update, find?, same, different.symm]
      · simp [update, find?, same, induction]

/-- Writing the value that a key already has changes nothing. -/
theorem update_of_find?_eq_some {value : String} {attributes : Attributes}
    (present : find? key attributes = some value) :
    update key value attributes = attributes := by
  induction attributes with
  | nil => contradiction
  | cons pair rest induction =>
      obtain ⟨name, old⟩ := pair
      rw [find?] at present
      rw [update]
      split
      next same =>
        rw [if_pos same] at present
        rw [same, Option.some.inj present]
      next different =>
        rw [if_neg different] at present
        rw [induction present]

theorem update_of_not_mem {attributes : Attributes}
    (absent : key ∉ keys attributes) (value : String) :
    update key value attributes = attributes ++ [(key, value)] := by
  induction attributes with
  | nil => rfl
  | cons pair rest induction =>
      obtain ⟨name, old⟩ := pair
      obtain ⟨different, others⟩ := not_or.mp (mt List.mem_cons.mpr absent)
      rw [update, if_neg (Ne.symm different), induction others]
      rfl

theorem find?_eq_none_iff {attributes : Attributes} :
    find? key attributes = none ↔ key ∉ keys attributes := by
  induction attributes with
  | nil => simp [find?, keys]
  | cons pair rest induction =>
      obtain ⟨name, old⟩ := pair
      by_cases same : name = key
      · simp [find?, keys, same]
      · have apart : key ≠ name := fun equal => same equal.symm
        simp only [keys] at induction
        simp [find?, keys, same, apart, induction]

theorem find?_erase_self {attributes : Attributes}
    (distinct : (keys attributes).Nodup) :
    find? key (erase key attributes) = none := by
  rw [find?_eq_none_iff, erase_keys]
  exact distinct.not_mem_erase

theorem find?_erase_of_ne (different : key ≠ other)
    (attributes : Attributes) :
    find? key (erase other attributes) = find? key attributes := by
  induction attributes with
  | nil => rfl
  | cons pair rest induction =>
      obtain ⟨name, old⟩ := pair
      by_cases same : name = other
      · simp [erase, find?, same, different.symm]
      · simp [erase, find?, same, induction]

theorem nodup_keys_update {attributes : Attributes}
    (distinct : (keys attributes).Nodup) (key value : String) :
    (keys (update key value attributes)).Nodup := by
  rw [update_keys]
  split
  · exact distinct
  next absent =>
    rw [List.nodup_append]
    refine ⟨distinct, by simp, ?_⟩
    intro old member new isNew same
    rw [List.mem_singleton] at isNew
    exact absent (isNew ▸ same ▸ member)

theorem nodup_keys_erase {attributes : Attributes}
    (distinct : (keys attributes).Nodup) (key : String) :
    (keys (erase key attributes)).Nodup := by
  rw [erase_keys]
  exact distinct.erase key

/-! ### Lists that differ by edits -/

/-- What writing and removing keys makes of an attribute list, when only keys in
`added` may be new and only keys in `removed` are removed. -/
inductive Edited (added removed : List String) (before : Attributes) :
    Attributes → Prop where
  | unchanged : Edited added removed before before
  | update {after : Attributes} {key : String} (value : String) :
      key ∈ added ∨ key ∈ keys after →
      Edited added removed before after →
      Edited added removed before (update key value after)
  | erase {after : Attributes} {key : String} :
      key ∈ removed →
      Edited added removed before after →
      Edited added removed before (erase key after)

/-- The old keys that are left stand first, in their old order, and all keys
behind them are new. -/
structure Placed (added removed : List String) (before after : Attributes) :
    Prop where
  distinct : (keys after).Nodup
  lost : ∀ key ∈ keys before, key ∉ keys after → key ∈ removed
  split : ∃ new,
    keys after = (keys before).filter (· ∈ keys after) ++ new ∧
      ∀ key ∈ new, key ∈ added ∧ key ∉ keys before

namespace Placed

variable {added removed : List String} {before after : Attributes}
  {key : String}

theorem refl (distinct : (keys before).Nodup) :
    Placed added removed before before := by
  refine ⟨distinct, fun key member absent => absurd member absent, [], ?_,
    List.forall_mem_nil _⟩
  have all : (keys before).filter (· ∈ keys before) = keys before := by
    apply List.filter_eq_self.mpr
    intro key member
    exact decide_eq_true member
  rw [all, List.append_nil]

/-- A key that was removed is not written again, so a key that is not there any
more was not there before either. -/
theorem update (placed : Placed added removed before after)
    (apart : ∀ key ∈ added, key ∉ removed)
    (known : key ∈ added ∨ key ∈ keys after) (value : String) :
    Placed added removed before (update key value after) := by
  by_cases present : key ∈ keys after
  · have same : keys (Attributes.update key value after) = keys after := by
      rw [update_keys, if_pos present]
    constructor
    · rw [same]
      exact placed.distinct
    · rw [same]
      exact placed.lost
    · rw [same]
      exact placed.split
  · have isAdded := known.resolve_right present
    have isNew : key ∉ keys before := fun old =>
      apart key isAdded (placed.lost key old present)
    have behind : keys (Attributes.update key value after) =
        keys after ++ [key] := by
      rw [update_keys, if_neg present]
    have left : (keys before).filter (· ∈ keys after ++ [key]) =
        (keys before).filter (· ∈ keys after) := by
      apply List.filter_congr
      intro old member
      have different : old ≠ key := fun same => isNew (same ▸ member)
      simp [different]
    obtain ⟨new, split, others⟩ := placed.split
    constructor
    · exact nodup_keys_update placed.distinct key value
    · intro old member absent
      apply placed.lost old member
      intro still
      apply absent
      rw [behind]
      exact List.mem_append_left _ still
    · refine ⟨new ++ [key], ?_, ?_⟩
      · rw [behind, left, ← List.append_assoc, ← split]
      · intro other member
        rcases List.mem_append.mp member with early | last
        · exact others other early
        · rw [List.mem_singleton.mp last]
          exact ⟨isAdded, isNew⟩

theorem erase (placed : Placed added removed before after)
    (isRemoved : key ∈ removed) :
    Placed added removed before (erase key after) := by
  have fewer : keys (Attributes.erase key after) =
      (keys after).filter (· != key) := by
    rw [erase_keys]
    exact placed.distinct.erase_eq_filter key
  obtain ⟨new, split, others⟩ := placed.split
  constructor
  · exact nodup_keys_erase placed.distinct key
  · intro old member absent
    by_cases same : old = key
    · rw [same]
      exact isRemoved
    · apply placed.lost old member
      intro still
      apply absent
      rw [fewer, List.mem_filter]
      exact ⟨still, bne_iff_ne.mpr same⟩
  · refine ⟨new.filter (· != key), ?_, ?_⟩
    · have left : (keys before).filter
            (· ∈ (keys after).filter (· != key)) =
          ((keys before).filter (· ∈ keys after)).filter (· != key) := by
        rw [List.filter_filter]
        apply List.filter_congr
        intro old _
        by_cases same : old = key
        · simp [same]
        · simp [same, List.mem_filter]
      rw [fewer, left, ← List.filter_append, ← split]
    · intro other member
      exact others other (List.mem_filter.mp member).1

end Placed

theorem Edited.placed {added removed : List String} {before after : Attributes}
    (edited : Edited added removed before after)
    (apart : ∀ key ∈ added, key ∉ removed)
    (distinct : (keys before).Nodup) : Placed added removed before after := by
  induction edited with
  | unchanged => exact .refl distinct
  | update value known _ placed => exact placed.update apart known value
  | erase isRemoved _ placed => exact placed.erase isRemoved

end Attributes

namespace Element

variable {element : Element} {key other : String}

theorem attributeKey_ne (different : Text.lower key ≠ Text.lower other) :
    element.attributeKey key ≠ element.attributeKey other := by
  unfold attributeKey
  split
  · exact different
  all_goals
    intro same
    exact different (congrArg Text.lower same)

@[simp]
theorem ns_setAttribute (value : String) :
    (element.setAttribute key value).ns = element.ns := rfl

@[simp]
theorem localName_setAttribute (value : String) :
    (element.setAttribute key value).localName = element.localName := rfl

theorem attribute?_setAttribute_self (element : Element)
    (key value : String) :
    (element.setAttribute key value).attribute? key = some value :=
  Attributes.find?_update_self _ _ _

theorem attribute?_setAttribute_of_ne
    (different : Text.lower key ≠ Text.lower other) (value : String) :
    (element.setAttribute other value).attribute? key =
      element.attribute? key :=
  Attributes.find?_update_of_ne (attributeKey_ne different) _ _

theorem setAttribute_of_attribute?_eq_some {value : String}
    (present : element.attribute? key = some value) :
    element.setAttribute key value = element := by
  rw [setAttribute, Attributes.update_of_find?_eq_some present]

theorem attribute?_removeAttribute_self
    (distinct : element.attributes.keys.Nodup) (key : String) :
    (element.removeAttribute key).2.attribute? key = none :=
  Attributes.find?_erase_self distinct

theorem attribute?_removeAttribute_of_ne
    (different : Text.lower key ≠ Text.lower other) :
    (element.removeAttribute other).2.attribute? key =
      element.attribute? key :=
  Attributes.find?_erase_of_ne (attributeKey_ne different) _

theorem attribute?_removeAttribute_eq_or
    (distinct : element.attributes.keys.Nodup) (key other : String) :
    (element.removeAttribute other).2.attribute? key = none ∨
      (element.removeAttribute other).2.attribute? key =
        element.attribute? key := by
  by_cases same : element.attributeKey key = element.attributeKey other
  · left
    have removed := attribute?_removeAttribute_self distinct other
    unfold attribute? at removed ⊢
    rw [show (element.removeAttribute other).2.attributeKey key =
      (element.removeAttribute other).2.attributeKey other from same]
    exact removed
  · exact Or.inr (Attributes.find?_erase_of_ne same _)

theorem hasAttribute_eq :
    element.hasAttribute key = (element.attribute? key).isSome := rfl

end Element

end MarkupHarden.Dom
