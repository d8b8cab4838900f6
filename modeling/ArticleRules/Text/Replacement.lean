import ArticleRules.Text.Parts

/-
This file looks characters up in tables of replacements.
-/

namespace ArticleRules.Text

/-- The replacements of successive characters, separated by blanks. The sign ␠ stands for a blank. -/
structure Replacements where
  first : Nat
  row : String

def Replacements.texts (replacements : Replacements) : List (List Char) :=
  (splitAt ' ' replacements.row.toList).map fun text =>
    text.map fun character => if character == '␠' then ' ' else character

/-- The tables are sorted, so the last row that does not start too late is the only one to look at. -/
def replacement? (table : List Replacements) (character : Char) : Option (List Char) := do
  let code := character.toNat
  let replacements ← (table.takeWhile (·.first ≤ code)).getLast?
  replacements.texts[code - replacements.first]?

/-- The character that has the given replacement. -/
def replacedBy? (table : List Replacements) (text : List Char) : Option Char :=
  table.findSome? fun replacements =>
    (replacements.texts.findIdx? (· == text)).map fun index => Char.ofNat (replacements.first + index)

end ArticleRules.Text
