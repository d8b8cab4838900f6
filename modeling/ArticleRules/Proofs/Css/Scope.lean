import ArticleRules.Proofs.Css.Matching

/-
This file shows when the scope of a search makes no difference. A selector that asks for the scope nowhere,
not even in the selectors inside it, holds at the same places in every scope.
-/

namespace ArticleRules.Css

mutual

/-- A test does not ask for the scope, at no level of nesting. -/
def Simple.isScopeFree : Simple → Bool
  | .scope => false
  | .anyOf alternatives | .noneOf alternatives | .having alternatives => areScopeFree alternatives
  | .universal | .withoutNamespace | .type _ | .identifier _ | .classed _ | .attributed _ => true
  | .root | .empty | .anchor | .positioned _ _ | .never => true

def testsScopeFree : List Simple → Bool
  | [] => true
  | test :: rest => test.isScopeFree && testsScopeFree rest

def Complex.isScopeFree : Complex → Bool
  | .compound tests => testsScopeFree tests
  | .joined left _ tests => left.isScopeFree && testsScopeFree tests

def areScopeFree : List Complex → Bool
  | [] => true
  | selector :: rest => selector.isScopeFree && areScopeFree rest

end

mutual

/-- Without a question for the scope, the scope decides nothing. -/
theorem Simple.holds_of_scopeFree (test : Simple) (free : test.isScopeFree = true)
    (scope other anchor : Option Place) (place : Place) (tag : Tag) :
    test.holds ⟨scope, anchor⟩ place tag = test.holds ⟨other, anchor⟩ place tag := by
  cases test with
  | scope => cases free
  | anyOf alternatives | noneOf alternatives | having alternatives =>
      -- Inside a relative selector the anchor is new, but the scope is the one from outside.
      rw [Simple.isScopeFree] at free
      simp only [Simple.holds, anyHolds_of_scopeFree alternatives free scope other]
  | universal | withoutNamespace | type name | identifier name | classed name | attributed test | root
  | empty | anchor | positioned counting progression | never =>
      simp only [Simple.holds]

theorem allHold_of_scopeFree (tests : List Simple) (free : testsScopeFree tests = true)
    (scope other anchor : Option Place) (place : Place) (tag : Tag) :
    allHold ⟨scope, anchor⟩ place tag tests = allHold ⟨other, anchor⟩ place tag tests := by
  cases tests with
  | nil => simp only [allHold]
  | cons test rest =>
      obtain ⟨here, later⟩ := Bool.and_eq_true_iff.1 free
      rw [allHold, allHold, test.holds_of_scopeFree here scope other,
        allHold_of_scopeFree rest later scope other]

theorem Complex.holds_of_scopeFree (selector : Complex) (free : selector.isScopeFree = true)
    (scope other anchor : Option Place) (place : Place) :
    selector.holds ⟨scope, anchor⟩ place = selector.holds ⟨other, anchor⟩ place := by
  cases tagged : place.node.tag? with
  | none => rw [Complex.holds_of_other tagged, Complex.holds_of_other tagged]
  | some tag =>
      cases selector with
      | compound tests =>
          rw [Complex.isScopeFree] at free
          rw [Complex.holds_compound tagged, Complex.holds_compound tagged,
            allHold_of_scopeFree tests free scope other]
      | joined left combinator tests =>
          rw [Complex.isScopeFree, Bool.and_eq_true] at free
          have sameLeft : left.holds ⟨scope, anchor⟩ = left.holds ⟨other, anchor⟩ := by
            funext candidate
            exact left.holds_of_scopeFree free.1 scope other anchor candidate
          rw [Complex.holds_joined tagged, Complex.holds_joined tagged,
            allHold_of_scopeFree tests free.2 scope other, sameLeft]

theorem anyHolds_of_scopeFree (selectors : List Complex) (free : areScopeFree selectors = true)
    (scope other anchor : Option Place) (place : Place) :
    anyHolds ⟨scope, anchor⟩ selectors place = anyHolds ⟨other, anchor⟩ selectors place := by
  cases selectors with
  | nil => simp only [anyHolds]
  | cons selector rest =>
      obtain ⟨here, later⟩ := Bool.and_eq_true_iff.1 free
      rw [anyHolds, anyHolds, selector.holds_of_scopeFree here scope other,
        anyHolds_of_scopeFree rest later scope other]

end

end ArticleRules.Css
