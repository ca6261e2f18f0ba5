import Mathlib.Data.String.Basic
import MarkupHarden.Json.Text

/-!
# Objects with distinct keys

A JSON value is meant to hold every key at most once in each of its objects.
The reader makes no other values, whatever the text: it keeps the members of an
object in ascending order of their keys and replaces the value of a key that
comes again.
-/

namespace MarkupHarden.Json

/-- In every object at or below the value each key stands once. -/
inductive DistinctKeys : Json → Prop where
  | null : DistinctKeys .null
  | bool (value : Bool) : DistinctKeys (.bool value)
  | number (value : Number) : DistinctKeys (.number value)
  | string (text : String) : DistinctKeys (.string text)
  | array {items : List Json} :
      (∀ item ∈ items, DistinctKeys item) → DistinctKeys (.array items)
  | object {members : Members} :
      (members.map Prod.fst).Nodup →
      (∀ pair ∈ members, DistinctKeys pair.2) → DistinctKeys (.object members)

attribute [simp] DistinctKeys.null DistinctKeys.bool DistinctKeys.number
  DistinctKeys.string

@[simp]
theorem distinctKeys_array {items : List Json} :
    (array items).DistinctKeys ↔ ∀ item ∈ items, item.DistinctKeys :=
  ⟨fun (.array distinct) => distinct, .array⟩

@[simp]
theorem distinctKeys_object {members : Members} :
    (object members).DistinctKeys ↔
      (members.map Prod.fst).Nodup ∧ ∀ pair ∈ members, pair.2.DistinctKeys :=
  ⟨fun (.object nodup distinct) => ⟨nodup, distinct⟩,
    fun ⟨nodup, distinct⟩ => .object nodup distinct⟩

namespace Members

variable {members : Members} {key name : String} {value : Json}

theorem mem_keys_insert :
    name ∈ (insert key value members).map Prod.fst ↔
      name = key ∨ name ∈ members.map Prod.fst := by
  induction members with
  | nil => simp [insert]
  | cons pair rest induction =>
      obtain ⟨other, old⟩ := pair
      rw [insert]
      split
      next same => simp [same]
      next =>
        split
        · simp
        · simp only [List.map_cons, List.mem_cons, induction]
          exact or_left_comm

theorem mem_insert {pair : String × Json}
    (member : pair ∈ insert key value members) :
    pair = (key, value) ∨ pair ∈ members := by
  induction members with
  | nil => simpa [insert] using member
  | cons first rest induction =>
      obtain ⟨other, old⟩ := first
      rw [insert] at member
      split at member
      · rcases List.mem_cons.mp member with new | later
        · exact .inl new
        · exact .inr (List.mem_cons_of_mem _ later)
      · split at member
        · exact List.mem_cons.mp member
        · rcases List.mem_cons.mp member with old | later
          · exact .inr (List.mem_cons.mpr (.inl old))
          · exact (induction later).imp_right (List.mem_cons_of_mem _)

/-- Members in ascending order of their keys. -/
def Ascending (members : Members) : Prop :=
  (members.map Prod.fst).Pairwise (· < ·)

theorem Ascending.insert (ascending : members.Ascending) (key : String)
    (value : Json) : (insert key value members).Ascending := by
  induction members with
  | nil => exact List.pairwise_singleton _ _
  | cons pair rest induction =>
      obtain ⟨other, old⟩ := pair
      obtain ⟨smaller, ascending⟩ := List.pairwise_cons.mp ascending
      rw [Members.insert]
      split
      next same => exact List.pairwise_cons.mpr ⟨same ▸ smaller, ascending⟩
      next different =>
        split
        next before =>
          refine List.pairwise_cons.mpr
            ⟨?_, List.pairwise_cons.mpr ⟨smaller, ascending⟩⟩
          intro name member
          rcases List.mem_cons.mp member with rfl | later
          · exact before
          · exact before.trans (smaller name later)
        next notBefore =>
          have behind : other < key :=
            lt_of_le_of_ne (not_lt.mp notBefore) (Ne.symm different)
          refine List.pairwise_cons.mpr ⟨?_, induction ascending⟩
          intro name member
          rcases mem_keys_insert.mp member with rfl | later
          · exact behind
          · exact smaller name later

/-- Members in ascending order with values that have distinct keys. -/
structure Orderly (members : Members) : Prop where
  ascending : members.Ascending
  distinct : ∀ pair ∈ members, DistinctKeys pair.2

theorem orderly_nil : Orderly [] where
  ascending := List.Pairwise.nil
  distinct := List.forall_mem_nil _

theorem Orderly.insert (orderly : members.Orderly) (key : String)
    (distinct : DistinctKeys value) :
    (Members.insert key value members).Orderly where
  ascending := orderly.ascending.insert key value
  distinct := by
    intro pair member
    rcases mem_insert member with rfl | old
    · exact distinct
    · exact orderly.distinct pair old

theorem Orderly.object (orderly : members.Orderly) :
    DistinctKeys (.object members) :=
  .object (orderly.ascending.imp fun less => less.ne) orderly.distinct

end Members

/-! ### The reader -/

private theorem distinct_of_readWord? {word : String} {value read : Json}
    {chars rest : List Char} (distinct : value.DistinctKeys)
    (found : readWord? word value chars = some (read, rest)) :
    read.DistinctKeys := by
  unfold readWord? at found
  split at found
  · cases found
    exact distinct
  · contradiction

private theorem distinct_of_readNumber? {read : Json} {chars rest : List Char}
    (found : readNumber? chars = some (read, rest)) : read.DistinctKeys := by
  simp only [readNumber?, Option.bind_eq_bind, Option.bind_eq_some_iff] at found
  obtain ⟨_, _, number, _, equal⟩ := found
  cases equal
  exact .number number

/-- What is read within a number of steps has distinct keys. -/
private structure ReadsDistinct (limit : Nat) : Prop where
  value : ∀ depth chars read rest,
    readValue? limit depth chars = some (read, rest) → read.DistinctKeys
  items : ∀ depth chars items rest,
    readItems? limit depth chars = some (items, rest) →
      ∀ item ∈ items, item.DistinctKeys
  members : ∀ depth members chars read rest, members.Orderly →
    readMembers? limit depth members chars = some (read, rest) →
      Members.Orderly read

private theorem ReadsDistinct.readValue? {limit depth : Nat}
    {chars rest : List Char} {read : Json} (reads : ReadsDistinct limit)
    (found : readValue? (limit + 1) depth chars = some (read, rest)) :
    read.DistinctKeys := by
  unfold Json.readValue? at found
  split at found
  · contradiction
  · contradiction
  next previous start same _ =>
    cases same
    split at found
    · contradiction
    split at found
    · cases found
      exact .array (List.forall_mem_nil _)
    · obtain ⟨⟨items, _⟩, inside, equal⟩ := Option.map_eq_some_iff.mp found
      cases equal
      exact .array (reads.items _ _ _ _ inside)
  next previous start same _ =>
    cases same
    split at found
    · contradiction
    split at found
    · cases found
      exact Members.orderly_nil.object
    · obtain ⟨⟨members, _⟩, inside, equal⟩ := Option.map_eq_some_iff.mp found
      cases equal
      exact (reads.members _ _ _ _ _ Members.orderly_nil inside).object
  · obtain ⟨⟨text, _⟩, _, equal⟩ := Option.map_eq_some_iff.mp found
    cases equal
    exact .string _
  · exact distinct_of_readWord? (.bool true) found
  · exact distinct_of_readWord? (.bool false) found
  · exact distinct_of_readWord? .null found
  · exact distinct_of_readNumber? found

private theorem ReadsDistinct.readItems? {limit depth : Nat}
    {chars rest : List Char} {items : List Json} (reads : ReadsDistinct limit)
    (found : readItems? (limit + 1) depth chars = some (items, rest)) :
    ∀ item ∈ items, item.DistinctKeys := by
  unfold Json.readItems? at found
  obtain ⟨⟨first, _⟩, readFirst, found⟩ := Option.bind_eq_some_iff.mp found
  have firstDistinct := reads.value _ _ _ _ readFirst
  dsimp only at found
  split at found
  · obtain ⟨⟨others, _⟩, inside, equal⟩ := Option.map_eq_some_iff.mp found
    cases equal
    exact List.forall_mem_cons.mpr
      ⟨firstDistinct, reads.items _ _ _ _ inside⟩
  · cases found
    exact List.forall_mem_singleton.mpr firstDistinct
  · contradiction

private theorem ReadsDistinct.readMembers? {limit depth : Nat}
    {chars rest : List Char} {members read : Members}
    (reads : ReadsDistinct limit) (orderly : members.Orderly)
    (found : readMembers? (limit + 1) depth members chars =
      some (read, rest)) :
    read.Orderly := by
  unfold Json.readMembers? at found
  split at found
  next previous start same _ =>
    cases same
    obtain ⟨⟨key, _⟩, _, found⟩ := Option.bind_eq_some_iff.mp found
    dsimp only at found
    split at found
    · obtain ⟨⟨value, _⟩, readFirst, found⟩ := Option.bind_eq_some_iff.mp found
      have longer := orderly.insert (String.ofList key)
        (reads.value _ _ _ _ readFirst)
      dsimp only at found
      split at found
      · exact reads.members _ _ _ _ _ longer found
      · cases found
        exact longer
      · contradiction
    · contradiction
  · contradiction

private theorem readsDistinct (limit : Nat) : ReadsDistinct limit := by
  induction limit with
  | zero =>
      refine ⟨?_, ?_, ?_⟩
      · intro depth chars read rest found
        simp [readValue?] at found
      · intro depth chars items rest found
        simp [readItems?] at found
      · intro depth members chars read rest _ found
        simp [readMembers?] at found
  | succ limit induction =>
      exact ⟨fun _ _ _ _ => induction.readValue?,
        fun _ _ _ _ => induction.readItems?,
        fun _ _ _ _ _ => induction.readMembers?⟩

/-- Whatever a text holds, its keys are distinct. -/
theorem distinctKeys_of_parse? {text : String} {value : Json}
    (read : parse? text = some value) : value.DistinctKeys := by
  dsimp only [parse?] at read
  split at read
  next found =>
    split at read
    · cases read
      exact (readsDistinct _).value _ _ _ _ found
    · contradiction
  · contradiction

end MarkupHarden.Json
