import ArticleRules.Proofs.Css.Remarks
import ArticleRules.Property.Pattern

/-
This file shows that properties read the same from a place with and without remarks in the tree. The getters
for text, attributes, elements and presence look at no other nodes than those that remain.
-/

namespace ArticleRules

namespace Place

/-- A search among the remaining places finds what a search among all places finds, if the two tests agree
on the places that remain and the second one accepts no remark. -/
theorem find?_remaining {places : List Place} {first second : Place → Bool}
    (agree : ∀ place ∈ places, place.node.isRemark = false →
      first place.withoutRemarks = second place)
    (element : ∀ place, second place = true → place.isElement = true) :
    (remaining places).find? first = (places.find? second).map withoutRemarks := by
  induction places with
  | nil => rfl
  | cons place rest ih =>
      have later := ih fun other member => agree other (List.mem_cons_of_mem _ member)
      rw [List.find?_cons]
      cases kept : place.node.isRemark with
      | true =>
          have rejected : second place = false := by
            rw [← Bool.not_eq_true]
            intro accepted
            exact absurd (element place accepted) (by simp [isElement, Node.isElement_of_isRemark kept])
          rw [remaining_cons_remark kept, later, rejected]
      | false =>
          rw [remaining_cons kept, List.find?_cons, agree place List.mem_cons_self kept, later]
          cases second place <;> rfl

end Place

open Place

section Selector

variable {tree : Node} {place found : Place}

theorem Selector.matchesAt_withoutRemarks (remains : Remains tree place) (selector : Selector) :
    selector.matchesAt place.withoutRemarks = selector.matchesAt place := by
  cases selector with
  | itself => exact place.isElement_withoutRemarks
  | css source compiled =>
      have unfocused : Css.Focus.Remains tree ⟨none, none⟩ := ⟨by simp, by simp⟩
      exact Css.anyHolds_withoutRemarks unfocused remains compiled

/-- The first match is found at the same place. -/
theorem Selector.findFirst_withoutRemarks (remains : Remains tree place) (selector : Selector) :
    selector.findFirst place.withoutRemarks = (selector.findFirst place).map withoutRemarks := by
  cases selector with
  | itself => rfl
  | css source compiled =>
      have focused : Css.Focus.Remains tree ⟨some place, none⟩ :=
        ⟨fun scope same => Option.some.inj same ▸ remains, by simp⟩
      have below : place.withoutRemarks.descendants.find?
            (Css.anyHolds ⟨some place.withoutRemarks, none⟩ compiled) =
          (place.descendants.find? (Css.anyHolds ⟨some place, none⟩ compiled)).map withoutRemarks := by
        rw [descendants_withoutRemarks]
        refine find?_remaining (fun other member kept => ?_) fun other => Css.isElement_of_anyHolds
        exact Css.anyHolds_withoutRemarks focused (remains.of_mem_descendants member kept) compiled
      rw [findFirst, findFirst, isElement_withoutRemarks, matchesAt_withoutRemarks remains, below]
      cases place.isElement with
      | false => rfl
      | true => cases (css source compiled).matchesAt place <;> rfl

end Selector

/-- What a value reads as if its markup does not count: its text, and whether it counts as set. -/
def PropertyValue.reading (value : PropertyValue) : String × Bool :=
  (value.toText, value.isTruthy)

namespace Extraction

/-- The value reads the same from a remaining place with and without remarks in the tree. -/
def SkipsRemarks (extract : Extraction) : Prop :=
  ∀ selector attributeName tree place, Remains tree place →
    (extract selector attributeName place.withoutRemarks).map PropertyValue.reading =
      (extract selector attributeName place).map PropertyValue.reading

theorem attributeOf_withoutRemarks (place : Place) (name : String) :
    attributeOf place.withoutRemarks name = attributeOf place name := by
  show (place.node.withoutRemarks.tag? >>= _) = _
  rw [Node.tag?_withoutRemarks]
  rfl

theorem text_skipsRemarks : SkipsRemarks text := by
  intro selector attributeName tree place remains
  simp only [text, selector.findFirst_withoutRemarks remains]
  cases selector.findFirst place with
  | none => rfl
  | some found =>
      cases attributeName with
      | none =>
          show some (found.withoutRemarks.textContent, _) = some (found.textContent, _)
          rw [textContent_withoutRemarks]
      | some name => exact congrArg _ (attributeOf_withoutRemarks found name)

theorem attributeValue_skipsRemarks : SkipsRemarks attributeValue := by
  intro selector attributeName tree place remains
  simp only [attributeValue, selector.findFirst_withoutRemarks remains]
  cases selector.findFirst place with
  | none => rfl
  | some found =>
      cases attributeName with
      | none => rfl
      | some name => exact congrArg _ (attributeOf_withoutRemarks found name)

theorem element_skipsRemarks : SkipsRemarks element := by
  intro selector attributeName tree place remains
  simp only [element, selector.findFirst_withoutRemarks remains]
  cases selector.findFirst place with
  | none => rfl
  | some found =>
      show some (found.withoutRemarks.textContent, true) = some (found.textContent, true)
      rw [textContent_withoutRemarks]

theorem presence_skipsRemarks : SkipsRemarks presence := by
  intro selector attributeName tree place remains
  simp only [presence, selector.findFirst_withoutRemarks remains, Option.map_map]
  rfl

end Extraction

/-- The built-in getters that look at content only. The children of a node are not among them, since they
count as set as soon as there is a remark. -/
def Getter.contentNames : List String :=
  ["text", "string", "attribute", "element", "exists"]

/-- The property uses one of the built-in getters that look at content only. -/
def Property.ReadsContent (property : Property) : Prop :=
  ∃ name ∈ Getter.contentNames, GetterTable.builtIn.get name = .ok property.getter

theorem Property.ReadsContent.skipsRemarks {property : Property} (reads : property.ReadsContent) :
    property.getter.extract.SkipsRemarks := by
  obtain ⟨name, member, found⟩ := reads
  have names : name = "text" ∨ name = "string" ∨ name = "attribute" ∨ name = "element" ∨
      name = "exists" := by simpa [Getter.contentNames] using member
  generalize property.getter = getter at found ⊢
  rcases names with rfl | rfl | rfl | rfl | rfl <;> cases found
  · exact Extraction.text_skipsRemarks
  · exact Extraction.text_skipsRemarks
  · exact Extraction.attributeValue_skipsRemarks
  · exact Extraction.element_skipsRemarks
  · exact Extraction.presence_skipsRemarks

end ArticleRules
