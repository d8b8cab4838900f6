import ArticleRules.Text.Direction

/-
This file checks domain names with letters that are written from right to left. The parts of such a
name must keep their order when they are shown.
-/

namespace ArticleRules.Address

open Text (Direction)

/-- Some part of the name is written from right to left. -/
def isBidirectional (name : List Char) : Bool :=
  name.any fun character =>
    Text.direction character == .leftward || Text.direction character == .arabicDigit

/-- The directions of a label without the marks at its end, except that the first one always stays. -/
def withoutLastMarks (directions : List Direction) : List Direction :=
  directions.take 1 ++ ((directions.drop 1).reverse.dropWhile (· == .mark)).reverse

/-- A rightward label starts with a letter and ends in a letter or digit, with nothing leftward in it. -/
def isRightwardLabel (directions : List Direction) : Bool :=
  directions.all (fun direction => direction != .leftward && direction != .arabicDigit) &&
    directions.getLast?.any fun direction => direction == .rightward || direction == .europeanDigit

/-- A leftward label starts with a letter and ends in a letter or digit. It has no rightward letter and
only one kind of digits. -/
def isLeftwardLabel (directions : List Direction) : Bool :=
  directions.all (· != .rightward) &&
    !(directions.contains .europeanDigit && directions.contains .arabicDigit) &&
    directions.getLast?.any fun direction => direction != .neutral && direction != .mark

/-- A label keeps to one direction. -/
def keepsDirection (label : List Char) : Bool :=
  let directions := withoutLastMarks (label.map Text.direction)
  match directions with
  | [] => true
  | .rightward :: _ => isRightwardLabel directions
  | .leftward :: _ => isLeftwardLabel directions
  | _ => false

end ArticleRules.Address
