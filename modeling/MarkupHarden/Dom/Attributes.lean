/-!
# Attribute lists

An attribute list keeps its keys in the order in which they were first
written.  Writing an existing key keeps its place, and `update_keys` and
`erase_keys` below say what each operation does to the keys.
-/

namespace MarkupHarden.Dom

/-- Attribute values by key, in order of insertion. -/
abbrev Attributes := List (String × String)

namespace Attributes

/-- The value stored under `key`. -/
def find? (key : String) : Attributes → Option String
  | [] => none
  | (name, value) :: rest => if name = key then some value else find? key rest

/-- Whether `key` is present. -/
def has (key : String) (attributes : Attributes) : Bool :=
  (find? key attributes).isSome

/-- Writes `value` under `key`: in place when present, at the end otherwise. -/
def update (key value : String) : Attributes → Attributes
  | [] => [(key, value)]
  | (name, old) :: rest =>
      if name = key then (key, value) :: rest
      else (name, old) :: update key value rest

/-- Removes `key`, keeping the order of the rest. -/
def erase (key : String) : Attributes → Attributes
  | [] => []
  | (name, value) :: rest =>
      if name = key then rest else (name, value) :: erase key rest

/-- The keys in order. -/
def keys (attributes : Attributes) : List String :=
  attributes.map Prod.fst

theorem update_keys (key value : String) (attributes : Attributes) :
    keys (update key value attributes) =
      if key ∈ keys attributes then keys attributes
      else keys attributes ++ [key] := by
  induction attributes with
  | nil => simp [update, keys]
  | cons pair rest ih =>
      obtain ⟨name, old⟩ := pair
      by_cases same : name = key
      · simp [update, keys, same]
      · have different : ¬key = name := fun equal => same equal.symm
        simp only [keys] at ih
        simp only [update, same, if_false, keys, List.map_cons, List.mem_cons,
          different, false_or, ih]
        split <;> simp_all

theorem erase_keys (key : String) (attributes : Attributes) :
    keys (erase key attributes) = (keys attributes).erase key := by
  induction attributes with
  | nil => simp [erase, keys]
  | cons pair rest ih =>
      obtain ⟨name, old⟩ := pair
      by_cases same : name = key
      · simp [erase, keys, same]
      · simp only [keys] at ih
        simp [erase, keys, same, ih]

end Attributes

end MarkupHarden.Dom
