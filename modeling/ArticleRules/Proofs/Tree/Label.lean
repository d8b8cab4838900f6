import ArticleRules.Proofs.Text.Entity
import ArticleRules.Tree.Markup

/-
This file shows that labels of elements can be read back. A label is made of parts that end at a delimiter,
and the values of attributes, which may be anything, are escaped so that no delimiter is left in them.
-/

namespace ArticleRules

namespace Text

/-- The characters that are escaped in the labels of elements. -/
def escapedInLabel : List Char :=
  ['&', '<', '>', '"']

theorem escapedInLabel_subset : escapedInLabel ⊆ marked := by
  decide

/-- A name and a value as they stand in the label of an element. -/
def assignment (entry : String × String) : List Char :=
  ' ' :: (entry.1.toList ++ '=' :: '"' :: ((escape escapedInLabel entry.2).toList ++ ['"']))

/-- An assignment ends where its value ends, and the name in it where the equals sign is. -/
theorem assignment_apart {first second : String × String} (clear : '=' ∉ first.1.toList)
    (clearToo : '=' ∉ second.1.toList) (begins : assignment first <+: assignment second) :
    first = second := by
  obtain ⟨rest, whole⟩ := begins
  simp only [assignment, List.cons_append, List.append_assoc, List.nil_append, List.cons.injEq,
    true_and] at whole
  have quoteless := quote_not_mem_escape escapedInLabel_subset (by decide)
  obtain ⟨sameName, values⟩ := append_inj_of_delimited clear clearToo (by simp) (by simp) whole
  simp only [List.cons.injEq, true_and] at values
  obtain ⟨sameValue, _⟩ := append_inj_of_delimited (quoteless first.2) (quoteless second.2)
    (by simp) (by simp) values
  have escaped := String.toList_inj.1 sameValue
  exact Prod.ext (String.toList_inj.1 sameName)
    (escape_injective escapedInLabel_subset (by decide) escaped)

/-- Every assignment begins with a space. -/
theorem head?_assignments (entries : List (String × String)) :
    ∀ next ∈ (entries.flatMap assignment).head?, next = ' ' := by
  cases entries with
  | nil => exact nofun
  | cons entry rest =>
      intro next first
      exact (Option.some.inj first).symm

end Text

namespace Tag

/-- The attributes of an element as its label shows them, without namespaces. -/
def shown (tag : Tag) : List (String × String) :=
  tag.attributes.map fun entry => (entry.localName, entry.value)

/-- Names can be told from what follows them in a label: the name of the element has no space, and names of
attributes have no equals sign. They may be anything else. -/
structure HasPlainNames (tag : Tag) : Prop where
  name : ' ' ∉ tag.localName.toList
  attributes : ∀ entry ∈ tag.attributes, '=' ∉ entry.localName.toList

theorem HasPlainNames.shown {tag : Tag} (plain : tag.HasPlainNames) :
    ∀ entry ∈ tag.shown, '=' ∉ entry.1.toList := by
  intro entry member
  obtain ⟨source, among, rfl⟩ := List.mem_map.1 member
  exact plain.attributes source among

end Tag

namespace Node

theorem toList_describe (tag : Tag) (children : List Node) :
    (element tag children).describe.toList =
      '<' :: (tag.localName.toList ++ tag.shown.flatMap Text.assignment ++ ['>']) := by
  simp [describe, Tag.shown, Text.assignment, Text.escapedInLabel, String.toList_join, List.flatMap_map]

/-- No value of an attribute can forge the label of an element. Whatever the values and the number of attributes
are, two elements with plain names have the same label only if they have the same name and the same attributes
with the same values, in the same order. -/
theorem describe_eq_iff {first second : Tag} (plain : first.HasPlainNames)
    (plainToo : second.HasPlainNames) (children others : List Node) :
    (element first children).describe = (element second others).describe ↔
      first.localName = second.localName ∧ first.shown = second.shown := by
  constructor
  · intro same
    rw [← String.toList_inj, toList_describe, toList_describe] at same
    -- Between the brackets, the name stands before assignments that begin with spaces.
    have opened := List.append_cancel_right (List.cons.inj same).2
    obtain ⟨sameName, sameAttributes⟩ := append_inj_of_delimited plain.name plainToo.name
      (Text.head?_assignments first.shown) (Text.head?_assignments second.shown) opened
    refine ⟨String.toList_inj.1 sameName, ?_⟩
    exact eq_of_flatMap_eq (fun _ => List.cons_ne_nil _ _) (fun _ _ => Text.assignment_apart)
      plain.shown plainToo.shown sameAttributes
  · rintro ⟨sameName, sameAttributes⟩
    rw [← String.toList_inj, toList_describe, toList_describe, sameName, sameAttributes]

end Node

namespace Tag

/-- The value of the attribute looks as if it ended and another attribute followed. -/
def forging : Tag :=
  ⟨Namespace.html, "figure", [⟨none, "", "width", "1\" height=\"2"⟩]⟩

/-- The two attributes that the value looks like. -/
def forged : Tag :=
  ⟨Namespace.html, "figure", [⟨none, "", "width", "1"⟩, ⟨none, "", "height", "2"⟩]⟩

end Tag

theorem Node.describe_eq_iff_forged :
    Tag.forging.HasPlainNames ∧ Tag.forged.HasPlainNames ∧
      (element .forging []).describe = "<figure width=\"1&quot; height=&quot;2\">" ∧
      (element .forged []).describe = "<figure width=\"1\" height=\"2\">" ∧
      ¬ ((element .forging []).describe = (element .forged []).describe) := by
  have plain : Tag.forging.HasPlainNames := ⟨by decide, by decide⟩
  have plainToo : Tag.forged.HasPlainNames := ⟨by decide, by decide⟩
  refine ⟨plain, plainToo, rfl, rfl, fun same => ?_⟩
  have shown := ((describe_eq_iff plain plainToo [] []).1 same).2
  exact absurd shown (by decide)

end ArticleRules
