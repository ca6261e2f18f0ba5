import MarkupHarden.Text.Digits

/-!
# Tables of code points

Properties of characters are written as words: a range of code points in
hexadecimal, `FIRST` or `FIRST-LAST`, and behind it a note that says what holds
for the range.  Words stand in ascending order, so that a table can be searched
by halving.
-/

namespace MarkupHarden.Text

/-- A range of code points with a note. -/
structure TableEntry where
  first : Nat
  last : Nat
  note : List Char
  deriving Repr, Inhabited

namespace TableEntry

/-- The number written by the hexadecimal digits at the start, and the rest. -/
def readCode (chars : List Char) : Nat × List Char :=
  ((numberOf? 16 (chars.takeWhile fun c => (digitValue? 16 c).isSome)).getD 0,
    chars.dropWhile fun c => (digitValue? 16 c).isSome)

def ofWord (word : String) : TableEntry :=
  let (first, rest) := readCode word.toList
  match rest with
  | '-' :: rest =>
      let (last, note) := readCode rest
      { first, last, note }
  | note => { first, last := first, note }

end TableEntry

/-- The entries written in rows of words. -/
def readTable (rows : List String) : Array TableEntry :=
  ((rows.flatMap fun row => row.splitOn " ").map TableEntry.ofWord).toArray

/-- Halves the part of the table from `low` up to `high` until one entry is
left that can hold `code`. -/
def searchTable (table : Array TableEntry) (code low high : Nat) :
    Option TableEntry :=
  if wide : low + 1 < high then
    let middle := (low + high) / 2
    if (table[middle]?.map TableEntry.first).any (· ≤ code) then
      searchTable table code middle high
    else searchTable table code low middle
  else table[low]?.filter fun entry => entry.first ≤ code ∧ code ≤ entry.last
termination_by high - low

/-- The entry that holds a code point. -/
def lookUp? (table : Array TableEntry) (code : Nat) : Option TableEntry :=
  searchTable table code 0 table.size

end MarkupHarden.Text
