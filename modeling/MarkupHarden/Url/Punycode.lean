/-!
# Punycode

The bootstring coding that writes a label of any characters with letters,
digits and hyphens.  Code points beyond ASCII are inserted in ascending order;
each is written as a distance in digits of base 36 whose thresholds adapt to
the distances seen before.
-/

namespace MarkupHarden.Url.Punycode

/-- The character of a digit: letters for 0 to 25, then figures. -/
def digitChar (digit : Nat) : Char :=
  if digit < 26 then Char.ofNat (97 + digit) else Char.ofNat (22 + digit)

/-- The value of a digit character. -/
def digitValue? (c : Char) : Option Nat :=
  if 'a' ≤ c ∧ c ≤ 'z' then some (c.toNat - 97)
  else if 'A' ≤ c ∧ c ≤ 'Z' then some (c.toNat - 65)
  else if '0' ≤ c ∧ c ≤ '9' then some (c.toNat - 22)
  else none

/-- The threshold at a digit position, between 1 and 26. -/
def threshold (position bias : Nat) : Nat :=
  max 1 (min 26 (position - bias))

/-- Divides a distance down for the next bias. -/
def settle (delta position : Nat) : Nat :=
  if large : delta > 455 then settle (delta / 35) (position + 36)
  else position + 36 * delta / (delta + 38)
termination_by delta
decreasing_by omega

/-- The bias after a distance, when `count` characters are in place. -/
def adapt (delta count : Nat) (first : Bool) : Nat :=
  let delta := if first then delta / 700 else delta / 2
  settle (delta + delta / count) 0

/-- The digits of a distance, from the given position on. -/
def writeDistance (bias position distance : Nat) : List Char :=
  let limit := threshold position bias
  if small : distance < limit then [digitChar distance]
  else
    digitChar (limit + (distance - limit) % (36 - limit)) ::
      writeDistance bias (position + 36) ((distance - limit) / (36 - limit))
termination_by distance
decreasing_by
  have positive : 1 ≤ threshold position bias := Nat.le_max_left _ _
  have smaller : (distance - threshold position bias) /
      (36 - threshold position bias) ≤ distance - threshold position bias :=
    Nat.div_le_self _ _
  omega

/-- How far a round of writing has come. -/
structure Progress where
  delta : Nat
  bias : Nat
  placed : Nat
  first : Bool

/-- Writes the distances of all occurrences of one code point. -/
def writeCodePoint (code : Nat) :
    List Char → Progress → List Char × Progress
  | [], progress => ([], progress)
  | c :: rest, progress =>
      if c.toNat < code then
        writeCodePoint code rest { progress with delta := progress.delta + 1 }
      else if c.toNat = code then
        let digits := writeDistance progress.bias 36 progress.delta
        let (others, after) :=
          writeCodePoint code rest
            { delta := 0
              bias :=
                adapt progress.delta (progress.placed + 1) progress.first
              placed := progress.placed + 1
              first := false }
        (digits ++ others, after)
      else writeCodePoint code rest progress

/-- Writes the code points of an ascending list, the next one expected to be
at least `expected`. -/
def writeCodePoints (label : List Char) :
    Nat → List Nat → Progress → List Char
  | _, [], _ => []
  | expected, code :: codes, progress =>
      let delta :=
        progress.delta + (code - expected) * (progress.placed + 1)
      let (digits, after) :=
        writeCodePoint code label { progress with delta := delta }
      digits ++
        writeCodePoints label (code + 1) codes
          { after with delta := after.delta + 1 }

/-- The ASCII form of a label, without its marker. -/
def encode (label : List Char) : List Char :=
  let basic := label.filter (·.toNat < 128)
  let codes :=
    ((label.filter (·.toNat ≥ 128)).map Char.toNat).mergeSort.eraseDups
  basic ++ (if basic.isEmpty then [] else ['-']) ++
    writeCodePoints label 128 codes
      { delta := 0, bias := 72, placed := basic.length, first := true }

/-- Reads the digits of a distance: the distance and what follows it. -/
def readDistance? (bias : Nat) :
    Nat → Nat → Nat → List Char → Option (Nat × List Char)
  | _, _, _, [] => none
  | position, weight, value, c :: rest =>
      (digitValue? c).bind fun digit =>
        let value := value + digit * weight
        let limit := threshold position bias
        if digit < limit then some (value, rest)
        else
          readDistance? bias (position + 36) (weight * (36 - limit)) value rest

theorem readDistance?_length {bias position weight value distance : Nat}
    {chars rest : List Char}
    (found :
      readDistance? bias position weight value chars = some (distance, rest)) :
    rest.length < chars.length := by
  induction chars generalizing position weight value with
  | nil => simp [readDistance?] at found
  | cons c tail induction =>
      unfold readDistance? at found
      obtain ⟨digit, _, found⟩ := Option.bind_eq_some_iff.1 found
      dsimp only at found
      split at found
      · grind
      · have := induction found
        grind

/-- Inserts the code points that the digits describe. -/
def readCodePoints? (label : List Char) (code index bias : Nat) (first : Bool)
    (digits : List Char) : Option (List Char) :=
  if digits.isEmpty then some label
  else
    match found : readDistance? bias 36 1 0 digits with
    | none => none
    | some (distance, rest) =>
        have := readDistance?_length found
        let count := label.length + 1
        let target := index + distance
        let code := code + target / count
        let index := target % count
        if code.isValidChar then
          readCodePoints?
            (label.take index ++ Char.ofNat code :: label.drop index) code
            (index + 1) (adapt distance count first) false rest
        else none
termination_by digits.length

/-- The label that an ASCII form without its marker stands for.  The last
hyphen ends the basic characters.  A form without any has no hyphen, so one at
the very start is not allowed. -/
def decode? (chars : List Char) : Option (List Char) :=
  let digits := (chars.reverse.takeWhile (· ≠ '-')).reverse
  let basic := chars.take (chars.length - digits.length - 1)
  if basic.isEmpty && digits.length < chars.length then none
  else readCodePoints? basic 128 0 72 true digits

end MarkupHarden.Url.Punycode
