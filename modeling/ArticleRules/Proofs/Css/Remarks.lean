import ArticleRules.Proofs.Css.Matching
import ArticleRules.Proofs.Tree.Remarks

/-
This file shows that style sheet selectors do not see remarks. Whatever a selector looks at from an element,
above it, beside it or below it, is an element or text, and these remain when remarks are left out.
-/

namespace ArticleRules

namespace Place

section Elements

variable {tree : Node} {place other : Place} {places : List Place}

theorem isRemark_of_isElement (element : place.isElement = true) : place.node.isRemark = false :=
  Node.isRemark_of_isElement element

/-- All elements among places remain. -/
theorem filter_isElement_remaining (places : List Place) :
    (remaining places).filter isElement = (places.filter isElement).map withoutRemarks := by
  induction places with
  | nil => rfl
  | cons place rest ih =>
      cases kept : place.node.isRemark with
      | true =>
          have other : place.isElement = false := Node.isElement_of_isRemark kept
          rw [remaining_cons_remark kept, ih, List.filter_cons, other]
          rfl
      | false =>
          rw [remaining_cons kept, List.filter_cons, List.filter_cons, isElement_withoutRemarks, ih]
          cases place.isElement <;> rfl

theorem ancestorElements_withoutRemarks (place : Place) :
    place.withoutRemarks.ancestorElements = place.ancestorElements.map withoutRemarks := by
  show ancestorElements.chain (place.above.map Step.withoutRemarks) =
    (ancestorElements.chain place.above).map withoutRemarks
  induction place.above with
  | nil => rfl
  | cons step above ih =>
      rw [List.map_cons, ancestorElements.chain, ancestorElements.chain, ih]
      show (if step.parent.withoutRemarks.isElement then _ else _) = _
      rw [Node.isElement_withoutRemarks]
      cases step.parent.isElement <;> rfl

theorem earlierElements_withoutRemarks (kept : place.node.isRemark = false) :
    place.withoutRemarks.earlierElements = place.earlierElements.map withoutRemarks := by
  rw [earlierElements, earlierSiblings_withoutRemarks kept, filter_isElement_remaining, earlierElements]

theorem Remains.laterElements_withoutRemarks (remains : Remains tree place) :
    place.withoutRemarks.laterElements = place.laterElements.map withoutRemarks := by
  rw [laterElements, remains.laterSiblings_withoutRemarks, filter_isElement_remaining, laterElements]

theorem isRootElement_withoutRemarks (place : Place) :
    place.withoutRemarks.isRootElement = place.isRootElement := by
  rw [isRootElement, isRootElement, parent?_withoutRemarks]
  cases place.parent? with
  | none => rfl
  | some parent =>
      obtain ⟨node, above⟩ := parent
      cases node <;> rfl

theorem Remains.of_mem_ancestorElements (remains : Remains tree place)
    (member : other ∈ place.ancestorElements) : Remains tree other := by
  induction remains with
  | root kept => cases member
  | @child parent index node above inside kept ih =>
      have chained : (parent.child index node).ancestorElements =
          if parent.isElement then parent :: parent.ancestorElements else [] := rfl
      rw [chained] at member
      split at member
      · rcases List.mem_cons.1 member with rfl | higher
        · exact above
        · exact ih higher
      · cases member

theorem Remains.of_mem_earlierElements (remains : Remains tree place)
    (member : other ∈ place.earlierElements) : Remains tree other := by
  obtain ⟨among, element⟩ := List.mem_filter.1 member
  have inside := List.mem_of_mem_take (List.mem_reverse.1 among)
  exact remains.of_mem_level inside (isRemark_of_isElement element)

theorem Remains.of_mem_laterSiblings (remains : Remains tree place)
    (member : other ∈ place.laterSiblings) (kept : other.node.isRemark = false) : Remains tree other :=
  remains.of_mem_level (List.mem_of_mem_drop member) kept

end Elements

end Place

namespace Css

open Place

section Matching

variable {tree : Node} {place other : Place}

theorem isEmptyElement_withoutRemarks (node : Node) :
    isEmptyElement node.withoutRemarks = isEmptyElement node := by
  rw [isEmptyElement, isEmptyElement, Node.children_withoutRemarks]
  induction node.children with
  | nil => rfl
  | cons child rest ih =>
      cases child with
      | element | text => rfl
      | document | fragment | comment | doctype | instruction => exact ih

theorem haveSameType_withoutRemarks (first second : Place) :
    haveSameType first.withoutRemarks second.withoutRemarks = haveSameType first second := by
  simp only [haveSameType, Place.withoutRemarks, Node.tag?_withoutRemarks]

theorem Counting.position_withoutRemarks (remains : Remains tree place) (counting : Counting) :
    counting.position place.withoutRemarks = counting.position place := by
  have sameSiblings : (if counting.fromEnd then place.withoutRemarks.laterElements
      else place.withoutRemarks.earlierElements) =
      (if counting.fromEnd then place.laterElements else place.earlierElements).map withoutRemarks := by
    rw [remains.laterElements_withoutRemarks, earlierElements_withoutRemarks remains.isRemark_eq]
    split <;> rfl
  have sameType : haveSameType place.withoutRemarks ∘ withoutRemarks = haveSameType place := by
    funext other
    exact haveSameType_withoutRemarks place other
  rw [position, position, sameSiblings]
  split
  · rw [List.filter_map, List.length_map, sameType]
  · rw [List.length_map]

theorem Combinator.candidates_withoutRemarks (kept : place.node.isRemark = false)
    (combinator : Combinator) :
    combinator.candidates place.withoutRemarks = (combinator.candidates place).map withoutRemarks := by
  cases combinator <;>
    simp only [candidates, ancestorElements_withoutRemarks, earlierElements_withoutRemarks kept,
      List.map_take]

theorem reach_withoutRemarks (remains : Remains tree place) :
    reach place.withoutRemarks = (reach place).map withoutRemarks := by
  have later := flatMap_remaining fun other (_ : other ∈ place.laterSiblings) =>
    descendants_withoutRemarks other
  rw [reach, descendants_withoutRemarks, remains.laterSiblings_withoutRemarks, later,
    ← remaining_append, filter_isElement_remaining, reach]

theorem Combinator.remains_of_mem (remains : Remains tree place) {combinator : Combinator}
    (member : other ∈ combinator.candidates place) : Remains tree other := by
  cases combinator with
  | descendant => exact remains.of_mem_ancestorElements member
  | child => exact remains.of_mem_ancestorElements (List.mem_of_mem_take member)
  | nextSibling => exact remains.of_mem_earlierElements (List.mem_of_mem_take member)
  | laterSibling => exact remains.of_mem_earlierElements member

theorem remains_of_mem_reach (remains : Remains tree place) (member : other ∈ reach place) :
    Remains tree other := by
  obtain ⟨among, element⟩ := List.mem_filter.1 member
  have kept := isRemark_of_isElement element
  rcases List.mem_append.1 among with below | beside
  · exact remains.of_mem_descendants below kept
  · obtain ⟨sibling, later, here⟩ := List.mem_flatMap.1 beside
    rcases List.mem_cons.1 here with rfl | lower
    · exact remains.of_mem_laterSiblings later kept
    · cases siblingKept : sibling.node.isRemark with
      | true =>
          rw [descendants_of_isRemark siblingKept] at lower
          cases lower
      | false => exact (remains.of_mem_laterSiblings later siblingKept).of_mem_descendants lower kept

/-- Two tests on members of a list that agree on each of them agree on the list. -/
theorem any_agree {values : List α} {first second : α → Bool}
    (agree : ∀ value ∈ values, first value = second value) : values.any first = values.any second := by
  induction values with
  | nil => rfl
  | cons value rest ih =>
      rw [List.any_cons, List.any_cons, agree value List.mem_cons_self,
        ih fun other member => agree other (List.mem_cons_of_mem _ member)]

/-- The places that a selector refers to, in the tree without remarks. -/
def Focus.withoutRemarks (focus : Focus) : Focus :=
  ⟨focus.scope.map Place.withoutRemarks, focus.anchor.map Place.withoutRemarks⟩

/-- The places that a selector refers to remain when remarks are left out of the tree. -/
structure Focus.Remains (tree : Node) (focus : Focus) : Prop where
  scope : ∀ scope, focus.scope = some scope → Place.Remains tree scope
  anchor : ∀ anchor, focus.anchor = some anchor → Place.Remains tree anchor

theorem Focus.isScope_withoutRemarks {focus : Focus} (focused : focus.Remains tree)
    (remains : Place.Remains tree place) :
    focus.withoutRemarks.isScope place.withoutRemarks = focus.isScope place := by
  obtain ⟨_ | scope, anchor⟩ := focus
  · exact isRootElement_withoutRemarks place
  · exact remains.same_withoutRemarks (focused.scope scope rfl)

theorem Focus.isAnchor_withoutRemarks {focus : Focus} (focused : focus.Remains tree)
    (remains : Place.Remains tree place) :
    focus.withoutRemarks.anchor.any place.withoutRemarks.same = focus.anchor.any place.same := by
  obtain ⟨scope, _ | anchor⟩ := focus
  · rfl
  · exact remains.same_withoutRemarks (focused.anchor anchor rfl)

mutual

/-- A selector holds of a remaining place if it holds of its counterpart. -/
theorem Simple.holds_withoutRemarks {focus : Focus} {place : Place} (focused : focus.Remains tree)
    (remains : Remains tree place) (tag : Tag) (test : Simple) :
    test.holds focus.withoutRemarks place.withoutRemarks tag = test.holds focus place tag := by
  cases test with
  | universal | withoutNamespace | type name | identifier name | classed name | attributed test | never =>
      simp only [Simple.holds]
  | root => simp only [Simple.holds, isRootElement_withoutRemarks]
  | empty =>
      simp only [Simple.holds]
      exact isEmptyElement_withoutRemarks place.node
  | scope => simp only [Simple.holds, Focus.isScope_withoutRemarks focused remains]
  | anchor => simp only [Simple.holds, Focus.isAnchor_withoutRemarks focused remains]
  | positioned counting progression =>
      simp only [Simple.holds, counting.position_withoutRemarks remains]
  | anyOf alternatives =>
      simp only [Simple.holds, anyHolds_withoutRemarks focused remains alternatives]
  | noneOf alternatives =>
      simp only [Simple.holds, anyHolds_withoutRemarks focused remains alternatives]
  | having alternatives =>
      simp only [Simple.holds, reach_withoutRemarks remains, List.any_map]
      refine any_agree fun found member => ?_
      have anchored : Focus.Remains tree ⟨focus.scope, some place⟩ :=
        ⟨focused.scope, fun anchor same => Option.some.inj same ▸ remains⟩
      exact anyHolds_withoutRemarks anchored (remains_of_mem_reach remains member) alternatives

theorem allHold_withoutRemarks {focus : Focus} {place : Place} (focused : focus.Remains tree)
    (remains : Remains tree place) (tag : Tag) (tests : List Simple) :
    allHold focus.withoutRemarks place.withoutRemarks tag tests = allHold focus place tag tests := by
  cases tests with
  | nil => simp only [allHold]
  | cons test rest =>
      rw [allHold, allHold, Simple.holds_withoutRemarks focused remains tag test,
        allHold_withoutRemarks focused remains tag rest]

theorem Complex.holds_withoutRemarks {focus : Focus} {place : Place} (focused : focus.Remains tree)
    (remains : Remains tree place) (selector : Complex) :
    selector.holds focus.withoutRemarks place.withoutRemarks = selector.holds focus place := by
  have sameTag : place.withoutRemarks.node.tag? = place.node.tag? := place.node.tag?_withoutRemarks
  cases tagged : place.node.tag? with
  | none => rw [Complex.holds_of_other (sameTag.trans tagged), Complex.holds_of_other tagged]
  | some tag =>
      cases selector with
      | compound tests =>
          rw [Complex.holds_compound (sameTag.trans tagged), Complex.holds_compound tagged,
            allHold_withoutRemarks focused remains tag tests]
      | joined left combinator tests =>
          have sameLeft : ∀ other ∈ combinator.candidates place,
              left.holds focus.withoutRemarks other.withoutRemarks = left.holds focus other :=
            fun other member =>
              Complex.holds_withoutRemarks focused (Combinator.remains_of_mem remains member) left
          rw [Complex.holds_joined (sameTag.trans tagged), Complex.holds_joined tagged,
            allHold_withoutRemarks focused remains tag tests,
            Combinator.candidates_withoutRemarks remains.isRemark_eq, List.any_map]
          exact congrArg _ (any_agree sameLeft)

theorem anyHolds_withoutRemarks {focus : Focus} {place : Place} (focused : focus.Remains tree)
    (remains : Remains tree place) (selectors : List Complex) :
    anyHolds focus.withoutRemarks selectors place.withoutRemarks = anyHolds focus selectors place := by
  cases selectors with
  | nil => simp only [anyHolds]
  | cons selector rest =>
      rw [anyHolds, anyHolds, Complex.holds_withoutRemarks focused remains selector,
        anyHolds_withoutRemarks focused remains rest]

end

end Matching

end Css

end ArticleRules
