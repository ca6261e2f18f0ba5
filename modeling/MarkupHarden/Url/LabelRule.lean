import MarkupHarden.Text.Composition
import MarkupHarden.Text.Direction
import MarkupHarden.Text.Joining

/-!
# Rules for labels beyond ASCII

A joiner may stand in a label only where it changes how the text looks.  In a
domain name with letters that run to the left, every label has to keep to one
direction, so that its characters cannot appear out of order.
-/

namespace MarkupHarden.Url

open Text (Direction Joining)

/-- Whether the first character that is not joined through joins as asked. -/
def meetsJoining (asked : Joining) (chars : List Char) : Bool :=
  ((chars.map Text.joining).find? (· ≠ .transparent)).any fun joining =>
    joining = asked || joining = .both

/-- Whether a joiner may stand between `before`, written from its end, and
`after`: behind a mark that asks for one, or, where it keeps letters apart,
between letters that would join. -/
def joinerFits (joiner : Char) (before after : List Char) : Bool :=
  (before.head?.any fun mark => Text.combiningClass mark.toNat = 9) ||
    (joiner = '\u200c' && meetsJoining .left before &&
      meetsJoining .right after)

/-- Whether each joiner of a label may stand where it does. -/
def joinersFit (before : List Char) : List Char → Bool
  | [] => true
  | c :: rest =>
      (!(c = '\u200c' || c = '\u200d') || joinerFits c before rest) &&
        joinersFit (c :: before) rest

/-- Whether text with this character runs to the left. -/
def runsLeft (c : Char) : Bool :=
  Text.direction c = .leftward || Text.direction c = .arabicNumber

/-- Whether a label keeps to the direction of its first letter.  Its last
character in front of closing marks is a letter of that direction or a number,
and no label mixes the two kinds of numbers. -/
def keepsDirection (label : List Char) : Bool :=
  let directions := label.map Text.direction
  let last := (directions.reverse.find? (· ≠ .mark)).getD .mark
  match directions.head? with
  | none => true
  | some .rightward =>
      (last = .rightward || last = .europeanNumber) &&
        directions.all fun direction =>
          direction ≠ .leftward && direction ≠ .arabicNumber
  | some .leftward =>
      (last = .leftward || last = .europeanNumber || last = .arabicNumber) &&
        !directions.contains .rightward &&
        !(directions.contains .europeanNumber &&
          directions.contains .arabicNumber)
  | some _ => false

end MarkupHarden.Url
