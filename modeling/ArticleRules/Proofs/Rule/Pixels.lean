import ArticleRules.Rule.Effect
import Mathlib.Data.List.TakeWhile
import Mathlib.Data.Nat.Digits.Defs

/-
This file says which texts are read as a number of pixels, and what is wrong with all others. Digits are read
from the left, and the number read so far is the value of the digits so far.
-/

namespace ArticleRules

namespace Text

def digitValue (digit : Char) : Nat :=
  digit.toNat - '0'.toNat

/-- The number that is written in decimal digits, the last of which are the ones. -/
def decimalValue (digits : List Char) : Nat :=
  Nat.ofDigits 10 (digits.map digitValue).reverse

/-- What follows the sign of a number. The sign may be missing, and it can only be a plus sign. -/
def afterSign (text : String) : List Char :=
  let characters := (trim text).toList
  if characters.head? == some '+' then characters.drop 1 else characters

/-- The text between blanks is a number in decimal digits, with any number of zeros in front. -/
def IsNumeral (text : String) : Prop :=
  afterSign text ≠ [] ∧ ∀ character ∈ afterSign text, character.isDigit = true

instance (text : String) : Decidable (IsNumeral text) :=
  inferInstanceAs (Decidable (_ ∧ _))

def numeralValue (text : String) : Nat :=
  decimalValue (afterSign text)

/-- Why a text is not read as a number. The digits in front may be too large before another character comes. -/
def pixelRefusal (text : String) : Refusal :=
  if trim text = "" then .noDigits
  else if UInt32.size ≤ decimalValue ((afterSign text).takeWhile Char.isDigit) then .tooLarge
  else .notDigits

theorem decimalValue_append (front back : List Char) :
    decimalValue (front ++ back) = decimalValue back + 10 ^ back.length * decimalValue front := by
  simp only [decimalValue, List.map_append, List.reverse_append, Nat.ofDigits_append,
    List.length_reverse, List.length_map]

theorem decimalValue_concat (front : List Char) (digit : Char) :
    decimalValue (front ++ [digit]) = 10 * decimalValue front + digitValue digit := by
  rw [decimalValue_append, List.length_singleton, Nat.pow_one, Nat.add_comm]
  rfl

theorem decimalValue_le_append (front back : List Char) :
    decimalValue front ≤ decimalValue (front ++ back) := by
  rw [decimalValue_append]
  have positive : 0 < 10 ^ back.length := Nat.pow_pos (by decide)
  have larger := Nat.le_mul_of_pos_left (decimalValue front) positive
  omega

end Text

open Text

theorem addDigit_digit {digit : Char} (isDigit : digit.isDigit = true) (value : Nat) :
    addDigit value digit =
      if 10 * value + digitValue digit < UInt32.size then .ok (10 * value + digitValue digit)
      else .error .tooLarge := by
  simp only [addDigit, isDigit, Bool.not_true, Bool.false_eq_true, if_false]
  rfl

theorem addDigit_other {character : Char} (other : character.isDigit = false) (value : Nat) :
    addDigit value character = .error .notDigits := by
  simp only [addDigit, other, Bool.not_false, if_true]

/-- Reading on from a number that fits fails at the first digit that makes it too large, or at the first
character that is no digit. -/
theorem foldlM_addDigit {front : List Char} (fits : decimalValue front < UInt32.size)
    (rest : List Char) :
    rest.foldlM addDigit (decimalValue front) =
      if UInt32.size ≤ decimalValue (front ++ rest.takeWhile Char.isDigit) then .error .tooLarge
      else if rest.all Char.isDigit then .ok (decimalValue (front ++ rest))
      else .error .notDigits := by
  induction rest generalizing front with
  | nil =>
      rw [List.takeWhile_nil, List.append_nil, if_neg (Nat.not_le.2 fits)]
      rfl
  | cons character rest ih =>
      rw [List.foldlM_cons]
      cases isDigit : character.isDigit with
      | false =>
          rw [addDigit_other isDigit, List.takeWhile_cons_of_neg (by simp [isDigit]), List.append_nil,
            if_neg (Nat.not_le.2 fits), List.all_cons, isDigit]
          rfl
      | true =>
          rw [addDigit_digit isDigit, ← decimalValue_concat, List.takeWhile_cons_of_pos isDigit,
            List.all_cons, isDigit, Bool.true_and, List.append_cons front character (rest.takeWhile _),
            List.append_cons front character rest]
          split
          · exact ih ‹_›
          · -- What comes later cannot make the number smaller.
            have larger := decimalValue_le_append (front ++ [character]) (rest.takeWhile Char.isDigit)
            rw [if_pos (by omega)]
            rfl

/-- There has to be a digit past the sign, and then the digits are read from zero on. -/
theorem readPixels_eq (text : String) :
    readPixels text =
      if trim text = "" then .error .noDigits
      else if afterSign text = [] then .error .notDigits
      else (afterSign text).foldlM addDigit 0 >>= fun value => pure value.toUInt32 := by
  have sign : (if (trim text).toList.head? == some '+' then (trim text).toList.drop 1
      else (trim text).toList) = afterSign text := rfl
  simp only [readPixels, sign, List.isEmpty_iff, String.toList_eq_nil_iff]
  by_cases blank : trim text = ""
  · rw [if_pos blank, if_pos blank]
    rfl
  rw [if_neg blank, if_neg blank]
  by_cases nothing : afterSign text = []
  · rw [if_pos nothing, if_pos nothing]
    rfl
  · rw [if_neg nothing, if_neg nothing]

/-- All digits of a number, read from zero on. -/
theorem foldlM_addDigit_zero (digits : List Char) :
    digits.foldlM addDigit 0 =
      if UInt32.size ≤ decimalValue (digits.takeWhile Char.isDigit) then .error .tooLarge
      else if digits.all Char.isDigit then .ok (decimalValue digits)
      else .error .notDigits := by
  have fits : decimalValue [] < UInt32.size := by decide
  exact foldlM_addDigit fits digits

theorem readPixels_numeral {text : String} (numeral : IsNumeral text)
    (fits : numeralValue text < UInt32.size) : readPixels text = .ok (numeralValue text).toUInt32 := by
  obtain ⟨digit, digits⟩ := numeral
  have some : trim text ≠ "" := by
    intro blank
    apply digit
    rw [afterSign, blank]
    rfl
  have whole : (afterSign text).takeWhile Char.isDigit = afterSign text :=
    List.takeWhile_eq_self_iff.2 digits
  rw [readPixels_eq, if_neg some, if_neg digit, foldlM_addDigit_zero, whole, ← numeralValue,
    if_neg (Nat.not_le.2 fits), if_pos (List.all_eq_true.2 digits)]
  rfl

theorem readPixels_other {text : String} (other : ¬ (IsNumeral text ∧ numeralValue text < UInt32.size)) :
    readPixels text = .error (pixelRefusal text) := by
  rw [readPixels_eq, pixelRefusal]
  by_cases blank : trim text = ""
  · rw [if_pos blank, if_pos blank]
  rw [if_neg blank, if_neg blank]
  by_cases nothing : afterSign text = []
  · -- Nothing follows the sign, so there are no digits to be too large.
    rw [nothing]
    rfl
  rw [if_neg nothing, foldlM_addDigit_zero]
  by_cases large : UInt32.size ≤ decimalValue ((afterSign text).takeWhile Char.isDigit)
  · rw [if_pos large, if_pos large]
    rfl
  rw [if_neg large, if_neg large]
  by_cases digits : (afterSign text).all Char.isDigit = true
  · have numeral : IsNumeral text := ⟨nothing, List.all_eq_true.1 digits⟩
    rw [List.takeWhile_eq_self_iff.2 numeral.2] at large
    exact absurd ⟨numeral, Nat.not_le.1 large⟩ other
  · rw [if_neg digits]
    rfl

/-- The digits are too large before the letter is read. -/
example : readPixels "99999999999x" = .error .tooLarge ∧ readPixels " +0042 " = .ok 42 := by
  decide

end ArticleRules
