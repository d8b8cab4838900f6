import ArticleRules.Selector

/-
This file says where a selector holds, one form of selector at a time. Only elements match.
-/

namespace ArticleRules

namespace Css.Complex

variable {place : Place} {focus : Focus}

theorem holds_of_other (other : place.node.tag? = none) (selector : Complex) :
    selector.holds focus place = false := by
  rw [holds.eq_def, other]

theorem holds_compound {tag : Tag} (tagged : place.node.tag? = some tag) (tests : List Simple) :
    (compound tests).holds focus place = allHold focus place tag tests := by
  rw [holds.eq_def, tagged]

theorem holds_joined {tag : Tag} (tagged : place.node.tag? = some tag) (left : Complex)
    (combinator : Combinator) (tests : List Simple) :
    (joined left combinator tests).holds focus place =
      (allHold focus place tag tests && (combinator.candidates place).any (left.holds focus)) := by
  rw [holds.eq_def, tagged]

end Css.Complex

/-- A selector matches elements only. -/
theorem Css.isElement_of_anyHolds {focus : Css.Focus} {selectors : List Css.Complex} {place : Place}
    (holds : Css.anyHolds focus selectors place = true) : place.isElement = true := by
  induction selectors with
  | nil => simp [Css.anyHolds] at holds
  | cons selector rest ih =>
      rw [Css.anyHolds, Bool.or_eq_true] at holds
      rcases holds with here | later
      · cases tag : place.node.tag? with
        | none =>
            rw [Css.Complex.holds_of_other tag] at here
            cases here
        | some found => simp [Place.isElement, Node.isElement, tag]
      · exact ih later

theorem Selector.isElement_of_matchesAt {selector : Selector} {place : Place}
    (matching : selector.matchesAt place = true) : place.isElement = true := by
  cases selector with
  | itself => exact matching
  | css source compiled => exact Css.isElement_of_anyHolds matching

end ArticleRules
