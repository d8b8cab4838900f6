import ArticleRules.Proofs.Css.Scope
import ArticleRules.Proofs.Tree.Order

/-
This file relates searching to matching. The first place found is the first of all places found, and unless
a selector asks for the scope, a search from an element finds what matches at or below it, in document order.
-/

namespace ArticleRules

namespace Selector

/-- A style sheet selector that does not ask for the scope, at no level of nesting. -/
def IsScopeFree : Selector → Prop
  | itself => False
  | css _ compiled => Css.areScopeFree compiled = true

/-- The first place that a search finds is the first one of all that it finds. -/
theorem findFirst_eq_head? (selector : Selector) (place : Place) :
    selector.findFirst place = (selector.findAll place).head? := by
  cases selector with
  | itself => rfl
  | css source compiled =>
      rw [findFirst, findAll]
      cases place.isElement with
      | false => rfl
      | true =>
          cases (css source compiled).matchesAt place with
          | true => rfl
          | false => exact (List.head?_filter ..).symm

/-- A search from an element goes through the places at and below it, and keeps those that match. The place
itself is tested without a scope and the others within it, which makes no difference here. -/
theorem findAll_eq_filter {selector : Selector} (free : selector.IsScopeFree) {place : Place}
    (element : place.isElement = true) :
    selector.findAll place = (place :: place.descendants).filter selector.matchesAt := by
  cases selector with
  | itself => cases free
  | css source compiled =>
      have sameTest : Css.anyHolds ⟨some place, none⟩ compiled = (css source compiled).matchesAt := by
        funext found
        exact Css.anyHolds_of_scopeFree compiled free (some place) none none found
      rw [findAll, if_pos element, sameTest, List.filter_cons]

/-- Search and match agree. The first place found is the first of all places found, and it is missing only if
there are none. With a style sheet selector that does not ask for the scope, a search from an element finds
the places at or below it where the selector matches, all of them elements, each once and in document order. -/
theorem findAll_agrees (selector : Selector) (place : Place) :
    selector.findFirst place = (selector.findAll place).head? ∧
    (selector.findFirst place = none ↔ selector.findAll place = []) ∧
    (selector.IsScopeFree → place.isElement = true →
      selector.findAll place = (place :: place.descendants).filter selector.matchesAt ∧
      (selector.findAll place).Pairwise (fun first second => first.path < second.path) ∧
      ∀ found, found ∈ selector.findAll place ↔
        (∃ steps, place.descend? steps = some found) ∧ found.isElement = true ∧
          selector.matchesAt found = true) := by
  refine ⟨findFirst_eq_head? selector place, ?_, fun free element => ?_⟩
  · rw [findFirst_eq_head?, List.head?_eq_none_iff]
  have filtered := findAll_eq_filter free element
  rw [filtered]
  refine ⟨rfl, place.cons_descendants_pairwise.filter _, fun found => ?_⟩
  rw [List.mem_filter, Place.mem_cons_descendants_iff]
  constructor
  · rintro ⟨reached, matching⟩
    exact ⟨reached, isElement_of_matchesAt matching, matching⟩
  · rintro ⟨reached, _, matching⟩
    exact ⟨reached, matching⟩

end Selector

/-- A box that holds a box, some text, and a box with another box in it. -/
def Node.nestedBoxes : Node :=
  .element ⟨"", "box", []⟩ [.element ⟨"", "box", []⟩ [], .text "between",
    .element ⟨"", "box", []⟩ [.element ⟨"", "box", []⟩ []]]

namespace Selector

/-- A box directly in a box that has no box inside. -/
def innermostBox : Selector :=
  .css "box > box:not(:has(box))"
    [.joined (.compound [.type (.of "box")]) .child
      [.type (.of "box"), .noneOf [.compound [.having
        [.joined (.compound [.anchor]) .descendant [.type (.of "box")]]]]]]

theorem findAll_agrees_boxes :
    innermostBox.IsScopeFree ∧ (Place.root .nestedBoxes).isElement = true ∧
      innermostBox.findAll (.root .nestedBoxes) =
        (Place.root .nestedBoxes :: (Place.root .nestedBoxes).descendants).filter
          innermostBox.matchesAt ∧
      (innermostBox.findAll (.root .nestedBoxes)).map Place.path = [[0], [2, 0]] ∧
      (innermostBox.findFirst (.root .nestedBoxes)).map Place.path = some [0] := by
  have free : innermostBox.IsScopeFree := rfl
  obtain ⟨first, _, agrees⟩ := findAll_agrees innermostBox (.root .nestedBoxes)
  obtain ⟨filtered, _⟩ := agrees free rfl
  refine ⟨free, rfl, filtered, ?_, ?_⟩
  · rfl
  · rw [first]
    rfl

/-- What asks for the scope can be found where it does not match. -/
example : ((css ":scope > box" [.joined (.compound [.scope]) .child [.type (.of "box")]]).findAll
      (.root .nestedBoxes)).map Place.path = [[0], [2]] ∧
    (css ":scope > box" [.joined (.compound [.scope]) .child [.type (.of "box")]]).matchesAt
      ((Place.root .nestedBoxes).child 0 (.element ⟨"", "box", []⟩ [])) = false := by
  decide

end Selector

end ArticleRules
