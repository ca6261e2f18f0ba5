/-!
# Digits and numbers

Reading and writing numbers in bases up to sixteen.  Only ASCII digits count.
-/

namespace MarkupHarden.Text

/-- The value of a digit, which is below `base`. -/
def digitValue? (base : Nat) (c : Char) : Option Nat :=
  let value :=
    if '0' ≤ c ∧ c ≤ '9' then some (c.toNat - 48)
    else if 'a' ≤ c ∧ c ≤ 'f' then some (c.toNat - 87)
    else if 'A' ≤ c ∧ c ≤ 'F' then some (c.toNat - 55)
    else none
  value.filter (· < base)

/-- The number that the digits continue `value` to. -/
def continueNumber? (base : Nat) : Nat → List Char → Option Nat
  | value, [] => some value
  | value, c :: rest =>
      (digitValue? base c).bind fun digit =>
        continueNumber? base (value * base + digit) rest

/-- The number written by one or more digits and nothing else. -/
def numberOf? (base : Nat) (chars : List Char) : Option Nat :=
  if chars.isEmpty then none else continueNumber? base 0 chars

/-- The digits of a number, in lower case. -/
def digitsOf (base value : Nat) : List Char :=
  Nat.toDigits base value

/-- The upper-case hexadecimal digit of a number below sixteen. -/
def upperHexDigit (value : Nat) : Char :=
  if value < 10 then Char.ofNat (48 + value) else Char.ofNat (55 + value)

end MarkupHarden.Text
