import ArticleRules.Proofs.Rule.Reach
import ArticleRules.Proofs.Walk.Precedence

/-
This file shows that rules for different kinds of contexts do not interfere. A walk stays within the kinds in
reach of its context, so rules for other kinds, and the order of rules for different kinds, make no difference.
-/

namespace ArticleRules

section Visits

variable {rules others : List Rule} {limit depth : Nat} {places : List Place} {context : Element}
  {warnings : List Warning} {result : Except Error Element}

/-- Visits over rules of the library report nodes in contexts within reach only. -/
theorem Visits.warnings_in_reach (builtIn : Rule.AllBuiltIn rules)
    (visits : Visits rules limit depth places context warnings result) :
    ∀ warning ∈ warnings, warning.context.kind ∈ context.kind.reach := by
  intro warning member
  induction visits with
  | finished | refused | cut => cases member
  | skipped skippable later ih => exact ih member
  | reported visible unmatched later ih =>
      rcases List.mem_cons.1 member with rfl | member
      · exact Kind.mem_reach_self _
      · exact ih member
  | changed response later ih =>
      have kept := response.kind_done
      rw [← kept]
      exact ih member
  | failedBelow response room below ih | refusedAfter response room below refusal ih =>
      exact Kind.mem_reach_trans response.kind_mem_reach (ih member)
  | completed response room below finishes later ihBelow ihLater =>
      have kept := response.kind_finished (below.kind_eq builtIn rfl) finishes
      rcases List.mem_append.1 member with member | member
      · exact Kind.mem_reach_trans response.kind_mem_reach (ihBelow member)
      · rw [← kept]
        exact ihLater member
  | hostFailed response | hostEnded response => exact (response.not_hosted builtIn).elim

/-- Visits over rules of the library use rules for the kinds within reach only. -/
theorem Applies.kind_mem_reach {application : Application} (builtIn : Rule.AllBuiltIn rules)
    (applies : Applies rules limit depth places context application) :
    application.rule.context ∈ context.kind.reach := by
  induction applies with
  | here visible matched =>
      have dispatched := (Rule.matchesAt_of_findMatch matched).1
      rw [← dispatched]
      exact Kind.mem_reach_self _
  | inside response room applies ih => exact Kind.mem_reach_trans response.kind_mem_reach ih
  | hosted response => exact (response.not_hosted builtIn).elim
  | later visit applies ih =>
      have kept := visit.kind_eq builtIn rfl
      rw [← kept]
      exact ih

theorem Responds.with_same_rules {place : Place} {rule : Rule} {planned : Except Error Plan}
    (same : Rule.SameFor context.kind.reach rules others)
    (response : Responds rules context place rule planned) :
    Responds others context place rule planned := by
  have found := same.findMatch_eq (Kind.mem_reach_self context.kind) place
  exact ⟨response.visible, found.symm.trans response.matched, response.plans⟩

/-- Visits have the same course with other rules that are the same for all kinds within reach. -/
theorem Visits.with_same_rules (builtIn : Rule.AllBuiltIn rules)
    (same : Rule.SameFor context.kind.reach rules others)
    (visits : Visits rules limit depth places context warnings result) :
    Visits others limit depth places context warnings result := by
  -- The kind of the context stays among siblings and comes within reach below, so the rules stay the same.
  induction visits with
  | finished => exact .finished
  | skipped skippable later ih => exact .skipped skippable (ih same)
  | reported visible unmatched later ih =>
      rw [same.findMatch_eq (Kind.mem_reach_self _)] at unmatched
      exact .reported visible unmatched (ih same)
  | refused response => exact .refused (response.with_same_rules same)
  | changed response later ih =>
      have kept := response.kind_done
      rw [kept] at ih
      exact .changed (response.with_same_rules same) (ih same)
  | cut response deep => exact .cut (response.with_same_rules same) deep
  | failedBelow response room below ih =>
      have sameBelow := same.inner response.kind_mem_reach
      exact .failedBelow (response.with_same_rules same) room (ih sameBelow)
  | refusedAfter response room below refusal ih =>
      have sameBelow := same.inner response.kind_mem_reach
      exact .refusedAfter (response.with_same_rules same) room (ih sameBelow) refusal
  | completed response room below finishes later ihBelow ihLater =>
      have sameBelow := same.inner response.kind_mem_reach
      have kept := response.kind_finished (below.kind_eq builtIn rfl) finishes
      rw [kept] at ihLater
      exact .completed (response.with_same_rules same) room (ihBelow sameBelow) finishes (ihLater same)
  | hostFailed response | hostEnded response => exact (response.not_hosted builtIn).elim

theorem Walks.with_same_rules {place : Place} (builtIn : Rule.AllBuiltIn rules)
    (same : Rule.SameFor context.kind.reach rules others)
    (walks : Walks rules limit depth place context warnings result) :
    Walks others limit depth place context warnings result := by
  cases walks with
  | cut deep => exact .cut deep
  | entered room visits => exact .entered room (visits.with_same_rules builtIn same)

end Visits

/-- Rules for different kinds of contexts do not interfere. A transformation over rules of the library uses
rules for the kinds within reach of its context only, and with any other rules that are the same for each of
these kinds, in the same order, it ends with the same element or the same error and adds the same warnings. -/
theorem Converter.transform_reach (converter : Converter) {rules others : List Rule}
    (builtIn : Rule.AllBuiltIn rules) (context : Element) (place : Place)
    (same : Rule.SameFor context.kind.reach rules others) :
    EndAlike ((converter.withRules rules).transform context place)
      ((converter.withRules others).transform context place) ∧
    ∀ application, (converter.withRules rules).Makes context place application →
      application.rule.context ∈ context.kind.reach := by
  constructor
  · obtain ⟨warnings, result, walks⟩ :=
      Walks.exists rules converter.maxDepth converter.state.depth place context
    have walksToo := walks.with_same_rules builtIn same
    exact endAlike_of_walks (converter.withRules rules) (converter.withRules others) rfl walks walksToo
  · rintro application ⟨room, applies⟩
    exact applies.kind_mem_reach builtIn

/-- Everything in an article is its header, and everything in a header is ignored. -/
def Rule.heedless : List Rule :=
  [.header ⟨.itself, []⟩, .ignore ⟨.itself, []⟩ .header]

/-- The same rules the other way around, with a rule that ignores everything in captions between them. -/
def Rule.heedlessReordered : List Rule :=
  [.ignore ⟨.itself, []⟩ .header, .ignore ⟨.itself, []⟩ .caption, .header ⟨.itself, []⟩]

theorem Converter.transform_reach_heedless :
    Rule.AllBuiltIn Rule.heedless ∧
      Rule.SameFor Kind.article.reach Rule.heedless Rule.heedlessReordered ∧
      ((heading.withRules Rule.heedless).transform (.article {}) (.root .boxes)).1 =
        .ok (.article { header := some {} }) ∧
      EndAlike ((heading.withRules Rule.heedless).transform (.article {}) (.root .boxes))
        ((heading.withRules Rule.heedlessReordered).transform (.article {}) (.root .boxes)) := by
  have builtIn : Rule.AllBuiltIn Rule.heedless := by decide
  have same : Rule.SameFor Kind.article.reach Rule.heedless Rule.heedlessReordered := by
    intro kind member
    have cases : kind = .article ∨ kind = .header ∨ kind = .interactive ∨ kind = .video := by
      simpa [Kind.reach] using member
    rcases cases with rfl | rfl | rfl | rfl <;> rfl
  have alike := transform_reach heading builtIn (.article {}) (.root .boxes) same
  exact ⟨builtIn, same, rfl, alike.1⟩

end ArticleRules
