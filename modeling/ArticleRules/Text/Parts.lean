/-
This file splits text at a separator.
-/

namespace ArticleRules.Text

/-- The parts of a text between the given separators. There is always at least one. -/
def splitAt (separator : Char) : List Char → List (List Char)
  | [] => [[]]
  | character :: rest =>
    match splitAt separator rest with
    | part :: parts => if character == separator then [] :: part :: parts else (character :: part) :: parts
    | [] => [[character]]

end ArticleRules.Text
