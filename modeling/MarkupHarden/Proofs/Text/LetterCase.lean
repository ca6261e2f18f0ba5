import Mathlib.Data.List.Forall2
import MarkupHarden.Text.Ascii

/-!
# Texts up to the case of letters

Folding to lower case forgets the case of ASCII letters and nothing else: two
texts are folded to the same one exactly when they agree character by character
up to the case of such letters.
-/

namespace MarkupHarden.Text

/-- Characters that differ at most in the case of an ASCII letter. -/
inductive SameLetter : Char → Char → Prop where
  | same {c : Char} : SameLetter c c
  | lowered {upper lower : Char} :
      upper.isUpper = true → lower.toNat = upper.toNat + 32 →
      SameLetter upper lower
  | raised {upper lower : Char} :
      upper.isUpper = true → lower.toNat = upper.toNat + 32 →
      SameLetter lower upper

/-- Texts that differ at most in the case of ASCII letters. -/
def SameLetters (first second : String) : Prop :=
  List.Forall₂ SameLetter first.toList second.toList

theorem isUpper_iff {c : Char} :
    c.isUpper = true ↔ 65 ≤ c.toNat ∧ c.toNat ≤ 90 := by
  unfold Char.isUpper
  rw [decide_eq_true_eq]
  exact Iff.rfl

theorem toNat_toLower_of_isUpper {c : Char} (upper : c.isUpper = true) :
    c.toLower.toNat = c.toNat + 32 := by
  have most : c.val.toNat ≤ 90 := (isUpper_iff.mp upper).2
  have shift : ('a'.val - 'A'.val).toNat = 32 := rfl
  unfold Char.toLower
  rw [dif_pos (of_decide_eq_true upper)]
  change (c.val + ('a'.val - 'A'.val)).toNat = c.val.toNat + 32
  rw [UInt32.toNat_add, shift]
  omega

theorem not_isUpper_toLower (c : Char) : ¬c.toLower.isUpper = true := by
  by_cases upper : c.isUpper = true
  · have least := (isUpper_iff.mp upper).1
    have code := toNat_toLower_of_isUpper upper
    rw [isUpper_iff]
    omega
  · rw [toLower_of_not_isUpper upper]
    exact upper

theorem sameLetter_toLower (c : Char) : SameLetter c c.toLower := by
  by_cases upper : c.isUpper = true
  · exact .lowered upper (toNat_toLower_of_isUpper upper)
  · rw [toLower_of_not_isUpper upper]
    exact .same

theorem SameLetter.symm {first second : Char}
    (same : SameLetter first second) : SameLetter second first := by
  cases same with
  | same => exact .same
  | lowered isUpper code => exact .raised isUpper code
  | raised isUpper code => exact .lowered isUpper code

private theorem toLower_of_lowered {upper lower : Char}
    (isUpper : upper.isUpper = true) (code : lower.toNat = upper.toNat + 32) :
    upper.toLower = lower.toLower := by
  have least := (isUpper_iff.mp isUpper).1
  have notUpper : ¬lower.isUpper = true := by
    rw [isUpper_iff]
    omega
  rw [toLower_of_not_isUpper notUpper]
  apply Char.toNat_inj.mp
  rw [toNat_toLower_of_isUpper isUpper, code]

theorem toLower_eq_toLower_iff {first second : Char} :
    first.toLower = second.toLower ↔ SameLetter first second := by
  constructor
  · intro same
    by_cases upper : first.isUpper = true
    · by_cases otherUpper : second.isUpper = true
      · have codes := congrArg Char.toNat same
        rw [toNat_toLower_of_isUpper upper,
          toNat_toLower_of_isUpper otherUpper] at codes
        rw [Char.toNat_inj.mp (Nat.add_right_cancel codes)]
        exact .same
      · rw [← toLower_of_not_isUpper otherUpper, ← same]
        exact sameLetter_toLower first
    · rw [← toLower_of_not_isUpper upper, same]
      exact (sameLetter_toLower second).symm
  · rintro (_ | ⟨isUpper, code⟩ | ⟨isUpper, code⟩)
    · rfl
    · exact toLower_of_lowered isUpper code
    · exact (toLower_of_lowered isUpper code).symm

theorem lower_eq_lower_iff {first second : String} :
    lower first = lower second ↔ SameLetters first second := by
  have folded : SameLetters first second ↔
      first.toList.map Char.toLower = second.toList.map Char.toLower := by
    rw [SameLetters, ← List.forall₂_eq_eq_eq, List.forall₂_map_left_iff,
      List.forall₂_map_right_iff]
    simp only [toLower_eq_toLower_iff]
  rw [folded, ← String.toList_inj, toList_lower, toList_lower]

theorem not_isUpper_of_mem_lower {text : String} {c : Char}
    (member : c ∈ (lower text).toList) : ¬c.isUpper = true := by
  rw [toList_lower] at member
  obtain ⟨old, _, rfl⟩ := List.mem_map.mp member
  exact not_isUpper_toLower old

instance (first second : String) : Decidable (SameLetters first second) :=
  decidable_of_iff _ lower_eq_lower_iff

end MarkupHarden.Text
