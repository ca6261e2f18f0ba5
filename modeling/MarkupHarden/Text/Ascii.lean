/-!
# ASCII letters and blanks

Element names, attribute names, URL schemes and charset labels compare after
folding the letters `A` to `Z`.  Every other character, accented letters
included, is left as it is.
-/

namespace MarkupHarden.Text

/-- ASCII white space: space, tab, line feed, form feed and carriage return. -/
def isSpace (c : Char) : Bool :=
  c = ' ' || c = '\t' || c = '\n' || c = '\x0c' || c = '\r'

/-- The text with the letters `A` to `Z` folded to `a` to `z`. -/
def lower (text : String) : String :=
  String.ofList (text.toList.map Char.toLower)

/-- Equality up to the case of ASCII letters. -/
def sameIgnoringCase (left right : String) : Bool :=
  lower left == lower right

/-- Whether `chars` begins with `word`, up to the case of ASCII letters. -/
def startsWithIgnoringCase (word : List Char) (chars : List Char) : Bool :=
  (chars.take word.length).map Char.toLower == word.map Char.toLower

theorem toList_lower (text : String) :
    (lower text).toList = text.toList.map Char.toLower := by
  simp [lower]

private theorem toLower_toLower (c : Char) : c.toLower.toLower = c.toLower := by
  unfold Char.toLower
  grind

theorem lower_lower (text : String) : lower (lower text) = lower text := by
  simp only [lower, String.toList_ofList, List.map_map, Function.comp_def,
    toLower_toLower]

theorem isAlpha_iff (c : Char) :
    c.isAlpha = true ↔
      (65 ≤ c.val.toNat ∧ c.val.toNat ≤ 90) ∨
        (97 ≤ c.val.toNat ∧ c.val.toNat ≤ 122) := by
  change (decide ('A'.val ≤ c.val ∧ c.val ≤ 'Z'.val) ||
    (decide ('a'.val ≤ c.val) && decide (c.val ≤ 'z'.val))) = true ↔ _
  rw [Bool.or_eq_true, Bool.and_eq_true, decide_eq_true_eq, decide_eq_true_eq,
    decide_eq_true_eq]
  simp only [UInt32.le_iff_toNat_le]
  exact Iff.rfl

/-- Folding keeps letters letters and makes none. -/
theorem isAlpha_toLower (c : Char) : c.toLower.isAlpha = c.isAlpha := by
  unfold Char.toLower
  split
  next upper =>
    have least : 65 ≤ c.val.toNat := UInt32.le_iff_toNat_le.mp upper.1
    have most : c.val.toNat ≤ 90 := UInt32.le_iff_toNat_le.mp upper.2
    have code : (c.val + ('a'.val - 'A'.val)).toNat = c.val.toNat + 32 := by
      have shift : ('a'.val - 'A'.val).toNat = 32 := rfl
      rw [UInt32.toNat_add, shift]
      omega
    rw [Bool.eq_iff_iff, isAlpha_iff, isAlpha_iff, code]
    omega
  next => rfl

theorem toLower_of_not_isUpper {c : Char} (notUpper : ¬c.isUpper = true) :
    c.toLower = c :=
  dif_neg (mt decide_eq_true notUpper)

end MarkupHarden.Text
