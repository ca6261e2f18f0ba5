/-!
# Unicode white space

Option values and doctype names are trimmed and split at the characters with
the Unicode property `White_Space`, which is wider than ASCII white space.
-/

namespace MarkupHarden.Text

/-- The characters with the Unicode property `White_Space`. -/
def isBlank (c : Char) : Bool :=
  let code := c.toNat
  (0x09 ≤ code && code ≤ 0x0D) || code = 0x20 || code = 0x85 || code = 0xA0
    || code = 0x1680 || (0x2000 ≤ code && code ≤ 0x200A) || code = 0x2028
    || code = 0x2029 || code = 0x202F || code = 0x205F || code = 0x3000

/-- Drops the characters accepted by `drop` from both ends. -/
def trimBoth (drop : Char → Bool) (chars : List Char) : List Char :=
  ((chars.dropWhile drop).reverse.dropWhile drop).reverse

/-- Trimming takes accepted characters off both ends. -/
theorem exists_trimBoth (drop : Char → Bool) (chars : List Char) :
    ∃ before after, chars = before ++ trimBoth drop chars ++ after ∧
      (∀ c ∈ before, drop c = true) ∧ ∀ c ∈ after, drop c = true := by
  let rest := chars.dropWhile drop
  refine ⟨chars.takeWhile drop, (rest.reverse.takeWhile drop).reverse, ?_,
    ?_, ?_⟩
  · have restored : trimBoth drop chars ++
        (rest.reverse.takeWhile drop).reverse = rest := by
      rw [trimBoth, ← List.reverse_append, List.takeWhile_append_dropWhile,
        List.reverse_reverse]
    rw [List.append_assoc, restored, List.takeWhile_append_dropWhile]
  · exact List.all_eq_true.mp List.all_takeWhile
  · intro c member
    exact List.all_eq_true.mp List.all_takeWhile c (List.mem_reverse.mp member)

private theorem dropWhile_append_solid {drop : Char → Bool}
    {before rest : List Char} (dropped : ∀ c ∈ before, drop c = true)
    (solid : ∀ c ∈ rest.head?, drop c = false) :
    (before ++ rest).dropWhile drop = rest := by
  rw [List.dropWhile_append_of_pos dropped]
  cases rest with
  | nil => rfl
  | cons c rest =>
      have kept : ¬drop c = true := Bool.eq_false_iff.mp (solid c rfl)
      exact List.dropWhile_cons_of_neg kept

/-- Trimming leaves what begins and ends with characters that are kept. -/
theorem trimBoth_append {drop : Char → Bool} {before core after : List Char}
    (droppedBefore : ∀ c ∈ before, drop c = true)
    (droppedAfter : ∀ c ∈ after, drop c = true) (notEmpty : core ≠ [])
    (firstKept : ∀ c ∈ core.head?, drop c = false)
    (lastKept : ∀ c ∈ core.getLast?, drop c = false) :
    trimBoth drop (before ++ core ++ after) = core := by
  have front : (before ++ core ++ after).dropWhile drop = core ++ after := by
    rw [List.append_assoc]
    apply dropWhile_append_solid droppedBefore
    obtain ⟨c, rest, rfl⟩ := List.exists_cons_of_ne_nil notEmpty
    exact firstKept
  have back : (core ++ after).reverse.dropWhile drop = core.reverse := by
    rw [List.reverse_append]
    apply dropWhile_append_solid
    · intro c member
      exact droppedAfter c (List.mem_reverse.mp member)
    · rwa [List.head?_reverse]
  rw [trimBoth, front, back, List.reverse_reverse]

/-- The text without blanks at either end. -/
def trim (text : String) : String :=
  String.ofList (trimBoth isBlank text.toList)

/-- The first run of characters that are not blank. -/
def firstWord (chars : List Char) : List Char :=
  (chars.dropWhile isBlank).takeWhile (!isBlank ·)

end MarkupHarden.Text
