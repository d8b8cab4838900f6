import ArticleRules.Text.Entity
import Mathlib.Data.List.Basic

/-
This file says what escaping makes of a text. Escaping more characters never makes the text shorter, and an
escaped text can be read back, since what is written for a character begins nothing else that is written.
-/

namespace ArticleRules

section flatMap

variable {first second : α → List β} {values : List α}

theorem length_flatMap_le (shorter : ∀ value ∈ values, (first value).length ≤ (second value).length) :
    (values.flatMap first).length ≤ (values.flatMap second).length := by
  induction values with
  | nil => exact Nat.le_refl 0
  | cons value rest ih =>
      obtain ⟨here, later⟩ := List.forall_mem_cons.1 shorter
      rw [List.flatMap_cons, List.flatMap_cons, List.length_append, List.length_append]
      exact Nat.add_le_add here (ih later)

/-- Where each part of one list is no longer than its counterpart, equal lists have equal parts. -/
theorem flatMap_eq_flatMap_iff
    (shorter : ∀ value ∈ values, (first value).length ≤ (second value).length) :
    values.flatMap first = values.flatMap second ↔ ∀ value ∈ values, first value = second value := by
  refine ⟨fun same => ?_, List.flatMap_congr⟩
  induction values with
  | nil => exact fun value member => nomatch member
  | cons value rest ih =>
      obtain ⟨here, later⟩ := List.forall_mem_cons.1 shorter
      rw [List.flatMap_cons, List.flatMap_cons] at same
      -- Neither the part here nor the later ones can be shorter, since the other would have to be longer.
      have lengths := congrArg List.length same
      rw [List.length_append, List.length_append] at lengths
      have laterLength := length_flatMap_le later
      obtain ⟨sameHere, sameLater⟩ := List.append_inj same (by omega)
      exact List.forall_mem_cons.2 ⟨sameHere, ih later sameLater⟩

end flatMap

section parts

variable {part : α → List β} {allowed : α → Prop}

/-- If no part begins another one, what is made of parts is made of them in one way only. -/
theorem eq_of_flatMap_eq (filled : ∀ value, part value ≠ [])
    (apart : ∀ value other, allowed value → allowed other → part value <+: part other → value = other)
    {first second : List α} (allFirst : ∀ value ∈ first, allowed value)
    (allSecond : ∀ value ∈ second, allowed value)
    (same : first.flatMap part = second.flatMap part) : first = second := by
  induction first generalizing second with
  | nil =>
      cases second with
      | nil => rfl
      | cons other later => exact absurd (List.append_eq_nil_iff.1 same.symm).1 (filled other)
  | cons value rest ih =>
      cases second with
      | nil => exact absurd (List.append_eq_nil_iff.1 same).1 (filled value)
      | cons other later =>
          obtain ⟨here, below⟩ := List.forall_mem_cons.1 allFirst
          obtain ⟨there, beyond⟩ := List.forall_mem_cons.1 allSecond
          rw [List.flatMap_cons, List.flatMap_cons] at same
          have begins : part value <+: part other ++ later.flatMap part :=
            same ▸ List.prefix_append _ _
          -- Both parts begin the same list, so that one of them begins the other.
          have equal : value = other := by
            obtain shorter | longer := List.prefix_or_prefix_of_prefix begins (List.prefix_append _ _)
            · exact apart value other here there shorter
            · exact (apart other value there here longer).symm
          subst equal
          rw [ih below beyond (List.append_cancel_left same)]

/-- Where two texts have no delimiter, and what follows them is nothing or begins with one, the texts can be
told from what follows. -/
theorem append_inj_of_delimited {delimiter : α} {first second after afterwards : List α}
    (clear : delimiter ∉ first) (clearToo : delimiter ∉ second)
    (ends : ∀ next ∈ after.head?, next = delimiter)
    (endsToo : ∀ next ∈ afterwards.head?, next = delimiter)
    (same : first ++ after = second ++ afterwards) : first = second ∧ after = afterwards := by
  induction first generalizing second with
  | nil =>
      cases second with
      | nil => exact ⟨rfl, same⟩
      | cons character rest =>
          have found : character = delimiter := ends character (congrArg List.head? same)
          exact absurd (found ▸ List.mem_cons_self) clearToo
  | cons character rest ih =>
      cases second with
      | nil =>
          have found : character = delimiter := endsToo character (congrArg List.head? same.symm)
          exact absurd (found ▸ List.mem_cons_self) clear
      | cons other later =>
          obtain ⟨rfl, following⟩ := List.cons.inj same
          obtain ⟨rfl, remains⟩ := ih (mt (List.mem_cons_of_mem _) clear)
            (mt (List.mem_cons_of_mem _) clearToo) following
          exact ⟨rfl, remains⟩

end parts

namespace Text

/-- What is written for a character when the reserved ones are escaped. -/
def replacement (reserved : List Char) (character : Char) : List Char :=
  if reserved.contains character then entity character else [character]

theorem toList_escape (reserved : List Char) (text : String) :
    (escape reserved text).toList = text.toList.flatMap (replacement reserved) := by
  rw [escape, String.toList_ofList]
  rfl

theorem escape_nil (text : String) : escape [] text = text := by
  rw [← String.toList_inj, toList_escape]
  exact List.flatMap_singleton' text.toList

section escape

variable {fewer more : List Char}

theorem replacement_of_mem {reserved : List Char} {character : Char} (member : character ∈ reserved) :
    replacement reserved character = entity character :=
  if_pos (List.contains_iff_mem.2 member)

theorem replacement_of_not_mem {reserved : List Char} {character : Char}
    (missing : character ∉ reserved) : replacement reserved character = [character] :=
  if_neg (mt List.contains_iff_mem.1 missing)

/-- Escaping more characters changes those that are added, into something longer. -/
theorem replacement_cases (subset : fewer ⊆ more)
    (longer : ∀ character ∈ more, 1 < (entity character).length) (character : Char) :
    (replacement fewer character = replacement more character ∧
        (character ∈ more → character ∈ fewer)) ∨
      ((replacement fewer character).length < (replacement more character).length ∧
        character ∈ more ∧ character ∉ fewer) := by
  by_cases escaped : character ∈ fewer
  · refine Or.inl ⟨?_, fun _ => escaped⟩
    rw [replacement_of_mem escaped, replacement_of_mem (subset escaped)]
  · by_cases added : character ∈ more
    · refine Or.inr ⟨?_, added, escaped⟩
      rw [replacement_of_not_mem escaped, replacement_of_mem added]
      exact longer character added
    · refine Or.inl ⟨?_, fun member => absurd member added⟩
      rw [replacement_of_not_mem escaped, replacement_of_not_mem added]

theorem length_replacement_le (subset : fewer ⊆ more)
    (longer : ∀ character ∈ more, 1 < (entity character).length) (character : Char) :
    (replacement fewer character).length ≤ (replacement more character).length := by
  obtain ⟨same, _⟩ | ⟨shorter, _⟩ := replacement_cases subset longer character
  · exact Nat.le_of_eq (congrArg List.length same)
  · exact Nat.le_of_lt shorter

theorem replacement_eq_iff (subset : fewer ⊆ more)
    (longer : ∀ character ∈ more, 1 < (entity character).length) (character : Char) :
    replacement fewer character = replacement more character ↔
      (character ∈ more → character ∈ fewer) := by
  obtain ⟨same, kept⟩ | ⟨shorter, added, missing⟩ := replacement_cases subset longer character
  · exact ⟨fun _ => kept, fun _ => same⟩
  · refine ⟨fun same => ?_, fun kept => absurd (kept added) missing⟩
    rw [same] at shorter
    exact absurd shorter (Nat.lt_irrefl _)

/-- Escaping more characters makes no text shorter. -/
theorem length_escape_le (subset : fewer ⊆ more)
    (longer : ∀ character ∈ more, 1 < (entity character).length) (text : String) :
    (escape fewer text).toList.length ≤ (escape more text).toList.length := by
  rw [toList_escape, toList_escape]
  exact length_flatMap_le fun character _ => length_replacement_le subset longer character

/-- Escaping more characters makes no difference if none of those that are added is in the text. -/
theorem escape_eq_escape_iff (subset : fewer ⊆ more)
    (longer : ∀ character ∈ more, 1 < (entity character).length) (text : String) :
    escape fewer text = escape more text ↔
      ∀ character ∈ text.toList, character ∈ more → character ∈ fewer := by
  rw [← String.toList_inj, toList_escape, toList_escape,
    flatMap_eq_flatMap_iff fun character _ => length_replacement_le subset longer character]
  simp only [replacement_eq_iff subset longer]

end escape

/-- The characters that have an entity. -/
def marked : List Char :=
  ['&', '<', '>', '"', noBreakSpace]

section entity

variable {character other : Char}

theorem marked_cases (isMarked : character ∈ marked) : character = '&' ∨ character = '<' ∨
    character = '>' ∨ character = '"' ∨ character = noBreakSpace := by
  simpa [marked] using isMarked

theorem head?_entity (isMarked : character ∈ marked) : (entity character).head? = some '&' := by
  obtain rfl | rfl | rfl | rfl | rfl := marked_cases isMarked <;> rfl

/-- No entity begins another one. -/
theorem entity_apart (isMarked : character ∈ marked) (isMarkedToo : other ∈ marked)
    (begins : entity character <+: entity other) : character = other := by
  revert begins
  obtain rfl | rfl | rfl | rfl | rfl := marked_cases isMarked <;>
    obtain rfl | rfl | rfl | rfl | rfl := marked_cases isMarkedToo <;> decide

theorem quote_not_mem_entity (isMarked : character ∈ marked) : '"' ∉ entity character := by
  obtain rfl | rfl | rfl | rfl | rfl := marked_cases isMarked <;> decide

end entity

section escape

variable {reserved : List Char}

/-- What is written for a character begins with an ampersand if it is escaped, and else with the character. -/
theorem replacement_eq_cons (subset : reserved ⊆ marked) (character : Char) :
    ∃ rest, replacement reserved character =
      (if character ∈ reserved then '&' else character) :: rest := by
  split
  · rename_i escaped
    rw [replacement_of_mem escaped]
    exact List.head?_eq_some_iff.1 (head?_entity (subset escaped))
  · rename_i kept
    exact ⟨[], replacement_of_not_mem kept⟩

/-- Where ampersands are escaped, what is written for a character begins nothing that is written for another. -/
theorem replacement_apart (subset : reserved ⊆ marked) (ampersand : '&' ∈ reserved)
    {first second : Char} (begins : replacement reserved first <+: replacement reserved second) :
    first = second := by
  obtain ⟨rest, writtenFirst⟩ := replacement_eq_cons subset first
  obtain ⟨later, writtenSecond⟩ := replacement_eq_cons subset second
  have heads := begins
  rw [writtenFirst, writtenSecond, List.cons_prefix_cons] at heads
  by_cases escaped : first ∈ reserved
  · by_cases escapedToo : second ∈ reserved
    · rw [replacement_of_mem escaped, replacement_of_mem escapedToo] at begins
      exact entity_apart (subset escaped) (subset escapedToo) begins
    · rw [if_pos escaped, if_neg escapedToo] at heads
      exact absurd (heads.1 ▸ ampersand) escapedToo
  · by_cases escapedToo : second ∈ reserved
    · rw [if_neg escaped, if_pos escapedToo] at heads
      exact absurd (heads.1 ▸ ampersand) escaped
    · rw [if_neg escaped, if_neg escapedToo] at heads
      exact heads.1

/-- Escaped text can be read back if ampersands are among the characters that are escaped. -/
theorem escape_injective (subset : reserved ⊆ marked) (ampersand : '&' ∈ reserved)
    {first second : String} (same : escape reserved first = escape reserved second) :
    first = second := by
  rw [← String.toList_inj, toList_escape, toList_escape] at same
  rw [← String.toList_inj]
  refine eq_of_flatMap_eq (fun character => ?_) (fun _ _ _ _ => replacement_apart subset ampersand)
    (fun _ _ => trivial) (fun _ _ => trivial) same
  obtain ⟨rest, written⟩ := replacement_eq_cons subset character
  rw [written]
  exact List.cons_ne_nil _ rest

/-- No quote is left in escaped text if quotes are among the characters that are escaped. -/
theorem quote_not_mem_escape (subset : reserved ⊆ marked) (quote : '"' ∈ reserved) (text : String) :
    '"' ∉ (escape reserved text).toList := by
  rw [toList_escape, List.mem_flatMap]
  rintro ⟨character, -, written⟩
  by_cases escaped : character ∈ reserved
  · rw [replacement_of_mem escaped] at written
    exact quote_not_mem_entity (subset escaped) written
  · rw [replacement_of_not_mem escaped, List.mem_singleton] at written
    exact escaped (written ▸ quote)

end escape

end Text

end ArticleRules
