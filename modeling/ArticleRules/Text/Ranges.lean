/-
This file looks characters up in tables of code point ranges.
-/

namespace ArticleRules.Text

def isWithin (ranges : List (Nat × Nat)) (character : Char) : Bool :=
  ranges.any fun (first, last) => first ≤ character.toNat && character.toNat ≤ last

/-- Ranges are searched plane by plane, since most text stays in the basic plane. -/
def inRanges (basic supplementary : List (Nat × Nat)) (character : Char) : Bool :=
  isWithin (if character.toNat < 0x10000 then basic else supplementary) character

end ArticleRules.Text
