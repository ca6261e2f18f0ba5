import Mathlib.Data.List.Forall2
import Mathlib.Data.Nat.Digits.Defs
import Mathlib.Tactic.Ring
import MarkupHarden.Text.Digits

/-!
# What digits write

A number is written by the ASCII digits of its base, the most significant one
first.  Leading zeros are allowed, signs and other characters are not.
-/

namespace MarkupHarden.Text

/-- An ASCII digit and its value.  Letters of either case stand for the values
from ten on. -/
inductive IsDigit (c : Char) : Nat → Prop where
  | decimal {value : Nat} :
      value < 10 → c.toNat = '0'.toNat + value → IsDigit c value
  | lowerCase {value : Nat} :
      value < 6 → c.toNat = 'a'.toNat + value → IsDigit c (value + 10)
  | upperCase {value : Nat} :
      value < 6 → c.toNat = 'A'.toNat + value → IsDigit c (value + 10)

/-- One or more digits of a base and the number that they write. -/
def Writes (base : Nat) (chars : List Char) (number : Nat) : Prop :=
  chars ≠ [] ∧ ∃ values, List.Forall₂ IsDigit chars values ∧
    (∀ value ∈ values, value < base) ∧
      number = Nat.ofDigits base values.reverse

variable {base value number : Nat} {c : Char} {chars : List Char}

theorem isDigit_iff : IsDigit c value ↔
    (value < 10 ∧ c.toNat = 48 + value) ∨
      (10 ≤ value ∧ value < 16 ∧
        (c.toNat = 87 + value ∨ c.toNat = 55 + value)) := by
  have zero : '0'.toNat = 48 := rfl
  have lower : 'a'.toNat = 97 := rfl
  have upper : 'A'.toNat = 65 := rfl
  constructor
  · rintro (⟨small, code⟩ | ⟨small, code⟩ | ⟨small, code⟩) <;> omega
  · rintro (⟨small, code⟩ | ⟨large, small, code⟩)
    · exact .decimal small (by omega)
    · obtain ⟨rest, rfl⟩ := Nat.exists_eq_add_of_le' large
      rcases code with code | code
      · exact .lowerCase (by omega) (by omega)
      · exact .upperCase (by omega) (by omega)

theorem digitValue?_eq_some_iff :
    digitValue? base c = some value ↔ IsDigit c value ∧ value < base := by
  have digit : ('0' ≤ c ∧ c ≤ '9') ↔ 48 ≤ c.toNat ∧ c.toNat ≤ 57 := Iff.rfl
  have lower : ('a' ≤ c ∧ c ≤ 'f') ↔ 97 ≤ c.toNat ∧ c.toNat ≤ 102 := Iff.rfl
  have upper : ('A' ≤ c ∧ c ≤ 'F') ↔ 65 ≤ c.toNat ∧ c.toNat ≤ 70 := Iff.rfl
  simp only [digitValue?, Option.filter_eq_some_iff, decide_eq_true_eq,
    isDigit_iff, digit, lower, upper]
  refine and_congr_left fun _ => ?_
  split_ifs
  case neg =>
    rw [false_iff]
    omega
  all_goals
    rw [Option.some.injEq]
    omega

theorem continueNumber?_eq_some_iff {start : Nat} :
    continueNumber? base start chars = some number ↔
      ∃ values, List.Forall₂ IsDigit chars values ∧
        (∀ value ∈ values, value < base) ∧
          number = start * base ^ chars.length +
            Nat.ofDigits base values.reverse := by
  induction chars generalizing start with
  | nil =>
      simp [continueNumber?, List.forall₂_nil_left_iff, eq_comm]
  | cons c rest induction =>
      have shifted {value : Nat} {values : List Nat}
          (digits : List.Forall₂ IsDigit rest values) :
          start * base ^ (c :: rest).length +
              Nat.ofDigits base (value :: values).reverse =
            (start * base + value) * base ^ rest.length +
              Nat.ofDigits base values.reverse := by
        rw [List.reverse_cons, Nat.ofDigits_append, Nat.ofDigits_singleton,
          List.length_reverse, ← digits.length_eq, List.length_cons, pow_succ]
        ring
      rw [continueNumber?, Option.bind_eq_some_iff]
      constructor
      · rintro ⟨value, read, continued⟩
        obtain ⟨isDigit, small⟩ := digitValue?_eq_some_iff.mp read
        obtain ⟨values, digits, allSmall, rfl⟩ := induction.mp continued
        exact ⟨value :: values, .cons isDigit digits,
          List.forall_mem_cons.mpr ⟨small, allSmall⟩, (shifted digits).symm⟩
      · rintro ⟨_, isDigit | @⟨_, value, _, values, isDigit, digits⟩,
          allSmall, rfl⟩
        obtain ⟨small, others⟩ := List.forall_mem_cons.mp allSmall
        exact ⟨value, digitValue?_eq_some_iff.mpr ⟨isDigit, small⟩,
          induction.mpr ⟨values, digits, others, shifted digits⟩⟩

theorem numberOf?_eq_some_iff :
    numberOf? base chars = some number ↔ Writes base chars number := by
  rw [numberOf?, Writes]
  by_cases empty : chars = []
  · simp [empty]
  · rw [if_neg (mt List.isEmpty_iff.mp empty), continueNumber?_eq_some_iff,
      zero_mul]
    simp only [zero_add, ne_eq, empty, not_false_eq_true, true_and]

end MarkupHarden.Text
