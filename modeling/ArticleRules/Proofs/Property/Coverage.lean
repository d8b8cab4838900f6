import ArticleRules.Proofs.Property.Views
import ArticleRules.Proofs.Selector
import Mathlib.Data.List.Basic

/-
This file says what a search finds from a place that is no element, such as a document or a fragment: nothing
at all, whatever is below it. Searches from its children find what it holds.
-/

namespace ArticleRules

namespace Selector

/-- A search from the place covers what is below it: all places where the selector matches are found in
document order, the first of them is found first, and it can be read as a property of the place. -/
structure Covers (selector : Selector) (place : Place) : Prop where
  all : selector.findAll place = place.descendants.filter selector.matchesAt
  first : selector.findFirst place = (place.descendants.filter selector.matchesAt).head?
  property : (∃ found ∈ place.descendants, selector.matchesAt found = true) →
    ∃ found, GetterTable.extracted? "element" selector none place = some (.node found)

section Covers

variable {selector : Selector} {place : Place}

theorem findAll_of_other (free : selector.IsScopeFree) (other : place.isElement = false) :
    selector.findAll place = [] := by
  cases selector with
  | itself => cases free
  | css source compiled => rw [findAll, other, if_neg Bool.false_ne_true]

theorem findFirst_of_other (free : selector.IsScopeFree) (other : place.isElement = false) :
    selector.findFirst place = none := by
  rw [findFirst_eq_head?, findAll_of_other free other, List.head?_nil]

/-- From a place that is no element, a search covers what is below it only if there is nothing to find. -/
theorem covers_iff_of_other (free : selector.IsScopeFree) (other : place.isElement = false) :
    selector.Covers place ↔ ∀ found ∈ place.descendants, selector.matchesAt found = false := by
  constructor
  · intro covers found below
    have nothing := covers.all.symm.trans (findAll_of_other free other)
    simpa using List.filter_eq_nil_iff.1 nothing found below
  · intro unmatched
    have nothing : place.descendants.filter selector.matchesAt = [] := by
      refine List.filter_eq_nil_iff.2 fun found below => ?_
      simp [unmatched found below]
    refine ⟨?_, ?_, ?_⟩
    · rw [findAll_of_other free other, nothing]
    · rw [findFirst_of_other free other, nothing, List.head?_nil]
    · rintro ⟨found, below, matching⟩
      rw [unmatched found below] at matching
      cases matching

/-- What is at or below a child is found from there, if the child is an element or has nothing below it. -/
theorem findAll_child (free : selector.IsScopeFree)
    (shallow : place.isElement = false → place.children = []) :
    selector.findAll place = (place :: place.descendants).filter selector.matchesAt := by
  cases element : place.isElement with
  | true => exact findAll_eq_filter free element
  | false =>
      have alone : place.descendants = [] := by
        rw [Place.descendants_eq_flatMap, shallow element, List.flatMap_nil]
      have unmatched : selector.matchesAt place = false := by
        rw [← Bool.not_eq_true]
        intro matching
        rw [isElement_of_matchesAt matching] at element
        cases element
      rw [findAll_of_other free element, alone, List.filter_cons_of_neg (by simp [unmatched]),
        List.filter_nil]

/-- From a document or a fragment, or any other place that is no element, a style sheet selector that does not
ask for the scope finds nothing, and no built-in getter extracts a value with it. So a search from there
covers what is below only if the selector matches nowhere below. What the search leaves out is found by
searching from the children of the place one after the other, unless documents are nested directly in it. -/
theorem findAll_documents (selector : Selector) (place : Place) (free : selector.IsScopeFree)
    (other : place.isElement = false) :
    selector.findAll place = [] ∧ selector.findFirst place = none ∧
    (∀ getter attributeName, GetterTable.extracted? getter selector attributeName place = none) ∧
    (selector.Covers place ↔ ∀ found ∈ place.descendants, selector.matchesAt found = false) ∧
    ((∀ child ∈ place.children, child.isElement = false → child.children = []) →
      place.children.flatMap selector.findAll = place.descendants.filter selector.matchesAt) := by
  have unmatched := findFirst_of_other free other
  refine ⟨findAll_of_other free other, unmatched, GetterTable.extracted?_of_unmatched unmatched,
    covers_iff_of_other free other, fun shallow => ?_⟩
  rw [Place.descendants_eq_flatMap, List.filter_flatMap]
  exact List.flatMap_congr fun child member => findAll_child free (shallow child member)

end Covers

end Selector

/-- A document with two paragraphs in its only element. -/
def Node.page : Node :=
  .document [.doctype "html", .element ⟨"", "body", []⟩
    [.element ⟨"", "p", []⟩ [.text "first"], .element ⟨"", "p", []⟩ [.text "second"]]]

namespace Selector

def paragraphs : Selector :=
  .css "p" [.compound [.type (.of "p")]]

theorem findAll_documents_page :
    paragraphs.IsScopeFree ∧ (Place.root .page).isElement = false ∧
      paragraphs.findAll (.root .page) = [] ∧
      ((Place.root .page).children.flatMap paragraphs.findAll).map Place.path = [[1, 0], [1, 1]] ∧
      (Place.root .page).children.flatMap paragraphs.findAll =
        (Place.root .page).descendants.filter paragraphs.matchesAt := by
  have free : paragraphs.IsScopeFree := rfl
  have shallow : ∀ child ∈ (Place.root .page).children,
      child.isElement = false → child.children = [] := by
    intro child member other
    obtain ⟨index, inside, rfl⟩ := List.mem_mapIdx.1 member
    match index, inside with
    | 0, _ => rfl
    | 1, _ => cases other
  obtain ⟨nothing, _, _, _, fromChildren⟩ := findAll_documents paragraphs (.root .page) free rfl
  exact ⟨free, rfl, nothing, rfl, fromChildren shallow⟩

/-- A search from the document misses its paragraphs. -/
theorem not_covers_page : paragraphs.IsScopeFree ∧
    ((Place.root .page).descendants.filter paragraphs.matchesAt).map Place.path = [[1, 0], [1, 1]] ∧
    ¬ paragraphs.Covers (.root .page) := by
  refine ⟨rfl, rfl, fun covers => ?_⟩
  have missed : (paragraphs.findAll (.root .page)).map Place.path ≠
      ((Place.root .page).descendants.filter paragraphs.matchesAt).map Place.path := by decide
  exact missed (congrArg (List.map Place.path) covers.all)

end Selector

end ArticleRules
