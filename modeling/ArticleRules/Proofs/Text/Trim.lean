import ArticleRules.Text.Blank
import Mathlib.Data.List.DropRight

/-
This file shows that trimmed text stays as it is when it is trimmed again. What is left of a text has no
blank characters at its ends.
-/

namespace ArticleRules.Text

theorem trimCharacters_eq (characters : List Char) :
    trimCharacters characters = (characters.dropWhile isBlank).rdropWhile isBlank := rfl

/-- The first character that trimming leaves is not blank. -/
theorem dropWhile_trimCharacters (characters : List Char) :
    (trimCharacters characters).dropWhile isBlank = trimCharacters characters := by
  rw [trimCharacters_eq, List.dropWhile_eq_self_iff]
  intro inside
  have starts := List.rdropWhile_prefix isBlank (characters.dropWhile isBlank)
  have front := List.dropWhile_eq_self_iff.1 (List.dropWhile_idempotent isBlank characters)
  have longer := Nat.lt_of_lt_of_le inside starts.length_le
  rw [starts.getElem inside]
  exact front longer

theorem trimCharacters_idempotent (characters : List Char) :
    trimCharacters (trimCharacters characters) = trimCharacters characters := by
  have front := dropWhile_trimCharacters characters
  rw [trimCharacters_eq (trimCharacters characters), front, trimCharacters_eq]
  exact List.rdropWhile_idempotent isBlank _

/-- Trimming once is enough. -/
@[simp] theorem trim_trim (text : String) : trim (trim text) = trim text := by
  simp only [trim, String.toList_ofList, trimCharacters_idempotent]

/-- A text is trimmed if it is not empty and has no blank characters at its ends. -/
def IsTrimmed (text : String) : Prop :=
  text ≠ "" ∧ trim text = text

/-- What trimming leaves of a text is trimmed, unless nothing is left. -/
theorem isTrimmed_trim {text : String} (some : trim text ≠ "") : IsTrimmed (trim text) :=
  ⟨some, trim_trim text⟩

end ArticleRules.Text
