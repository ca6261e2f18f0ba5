/-!
# Double-precision numbers

A finite double is a whole number of units `2 ^ exponent`.  Arithmetic is exact
on fractions and rounds once, to the nearest double and to even in a tie.  The
shortest decimal of a double is the one with the fewest digits among those that
read back as it, and the nearest of these.
-/

namespace MarkupHarden.Json

/-- A finite double without its sign: `mantissa * 2 ^ exponent`. -/
structure Double where
  mantissa : Nat
  exponent : Int
  deriving DecidableEq, Repr

namespace Double

def zero : Double where
  mantissa := 0
  exponent := -1074

/-- A fraction, with a positive denominator. -/
structure Fraction where
  numerator : Nat
  denominator : Nat

/-- The fraction `numerator / denominator * 2 ^ exponent`. -/
def scale (numerator denominator : Nat) (exponent : Int) : Fraction where
  numerator := numerator <<< exponent.toNat
  denominator := denominator <<< (-exponent).toNat

def toFraction (double : Double) : Fraction :=
  scale double.mantissa 1 double.exponent

/-- The whole number nearest to a fraction, the even one in a tie. -/
def nearest (fraction : Fraction) : Nat :=
  let whole := fraction.numerator / fraction.denominator
  let twice := 2 * (fraction.numerator % fraction.denominator)
  if twice > fraction.denominator then whole + 1
  else if twice = fraction.denominator && whole % 2 = 1 then whole + 1
  else whole

/-- The greatest exponent of a power of two that does not exceed a positive
fraction. -/
def log2 (fraction : Fraction) : Int :=
  let guess : Int := (fraction.numerator.log2 : Int) - fraction.denominator.log2
  let bound := scale fraction.denominator 1 guess
  if fraction.numerator * bound.denominator ≥ bound.numerator then guess
  else guess - 1

/-- The double nearest to a fraction, if it is finite. -/
def round? (fraction : Fraction) : Option Double :=
  if fraction.numerator = 0 then some zero
  else
    let exponent := max (log2 fraction - 52) (-1074)
    let unit := scale fraction.denominator 1 exponent
    let mantissa :=
      nearest
        { numerator := fraction.numerator * unit.denominator
          denominator := unit.numerator }
    let double : Double :=
      if mantissa = 0x20000000000000 then
        { mantissa := 0x10000000000000, exponent := exponent + 1 }
      else { mantissa, exponent }
    if double.exponent > 971 then none else some double

def ofNat? (value : Nat) : Option Double :=
  round? { numerator := value, denominator := 1 }

def mul? (left right : Double) : Option Double :=
  let first := left.toFraction
  let second := right.toFraction
  round?
    { numerator := first.numerator * second.numerator
      denominator := first.denominator * second.denominator }

def div? (left right : Double) : Option Double :=
  let first := left.toFraction
  let second := right.toFraction
  round?
    { numerator := first.numerator * second.denominator
      denominator := first.denominator * second.numerator }

/-- The double nearest to a power of ten up to the 308th. -/
def powerOfTen (power : Nat) : Double :=
  (ofNat? (Nat.pow 10 power)).getD zero

/-- The double `value * 10 ^ power`, rounding once for every 308 places; out of
range it is `none`. -/
def scaleByTen? (value : Double) (power : Int) : Option Double :=
  if value.mantissa = 0 then some value
  else if power ≥ 0 then
    if power ≤ 308 then mul? value (powerOfTen power.toNat) else none
  else if power ≥ -308 then div? value (powerOfTen (-power).toNat)
  else
    (div? value (powerOfTen 308)).bind fun value =>
      scaleByTen? value (power + 308)
termination_by (-power).toNat

/-! ### Shortest decimals -/

/-- A decimal: `digits * 10 ^ power`. -/
structure Decimal where
  digits : Nat
  power : Int
  deriving DecidableEq, Repr

/-- The fraction `numerator / denominator * 10 ^ power`. -/
def scaleTen (numerator denominator : Nat) (power : Int) : Fraction where
  numerator := numerator * Nat.pow 10 power.toNat
  denominator := denominator * Nat.pow 10 (-power).toNat

/-- The decimals with the given last place on both sides of a double. -/
def neighbours (double : Double) (power : Int) : List Decimal :=
  let value := double.toFraction
  let place := scaleTen value.denominator 1 power
  let below := value.numerator * place.denominator / place.numerator
  [{ digits := below, power }, { digits := below + 1, power }]

/-- The distance between a decimal and a double. -/
def distance (double : Double) (decimal : Decimal) : Fraction :=
  let value := double.toFraction
  let other := scaleTen decimal.digits 1 decimal.power
  let left := value.numerator * other.denominator
  let right := other.numerator * value.denominator
  { numerator := (left - right) + (right - left)
    denominator := value.denominator * other.denominator }

def Fraction.le (left right : Fraction) : Bool :=
  left.numerator * right.denominator ≤ right.numerator * left.denominator

/-- Whether reading the decimal gives the double. -/
def readsBack (double : Double) (decimal : Decimal) : Bool :=
  round? (scaleTen decimal.digits 1 decimal.power) = some double

/-- The nearer of two decimals on both sides of a double, the one with an even
last digit in a tie. -/
def nearer (double : Double) (below above : Decimal) : Decimal :=
  let left := distance double below
  let right := distance double above
  if !left.le right then above
  else if right.le left && below.digits % 2 = 1 then above
  else below

/-- The decimal with the given last place that reads back, the nearer if there
are two. -/
def decimalAt? (double : Double) (power : Int) : Option Decimal :=
  match (neighbours double power).filter (readsBack double) with
  | [] => none
  | [decimal] => some decimal
  | below :: above :: _ => some (nearer double below above)

/-- The greatest power of ten that does not exceed a positive double. -/
def log10 (double : Double) : Int :=
  let value := double.toFraction
  if value.numerator ≥ value.denominator then
    ((Nat.toDigits 10 (value.numerator / value.denominator)).length : Int) - 1
  else
    let guess : Int :=
      (Nat.toDigits 10 value.numerator).length -
        (Nat.toDigits 10 value.denominator).length
    if value.numerator * Nat.pow 10 (-guess).toNat ≥ value.denominator then
      guess
    else guess - 1

/-- The first last place, from `power` down, at which a decimal reads back. -/
def search (double : Double) : Nat → Int → Decimal
  | 0, _ => { digits := 0, power := 0 }
  | limit + 1, power =>
      (decimalAt? double power).getD (search double limit (power - 1))

/-- The shortest decimal of a double; seventeen digits always suffice. -/
def shortest (double : Double) : Decimal :=
  if double.mantissa = 0 then { digits := 0, power := 0 }
  else search double 18 (log10 double + 1)

/-- A decimal as text.  Between the places `-5` and `15` of the first digit it
is written with a point and at least one place behind it, otherwise with an
exponent. -/
def Decimal.text (decimal : Decimal) : String :=
  let digits := (toString decimal.digits).toList
  let shown := (digits.reverse.dropWhile (· = '0')).reverse
  let shown := if shown.isEmpty then ['0'] else shown
  let place : Int := decimal.power + digits.length - 1
  let body :=
    if -5 ≤ place ∧ place < 0 then
      "0.".toList ++ List.replicate (-place - 1).toNat '0' ++ shown
    else if 0 ≤ place ∧ place < 16 then
      let whole := place.toNat + 1
      shown.take whole ++ List.replicate (whole - shown.length) '0' ++
        ['.'] ++
        (if shown.length ≤ whole then ['0'] else shown.drop whole)
    else
      let fraction := if shown.length > 1 then '.' :: shown.drop 1 else []
      let sign := if place < 0 then '-' else '+'
      shown.take 1 ++ fraction ++ ['e', sign] ++
        (toString place.natAbs).toList
  String.ofList body

end Double

end MarkupHarden.Json
