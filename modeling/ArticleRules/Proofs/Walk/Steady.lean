import ArticleRules.Proofs.Walk.Visits

/-
This file shows that walks do not look at the warnings that are held before them. A walk below a node, and
a rule that is applied to a node, add their warnings and come back to the depth that they started from.
-/

namespace ArticleRules

/-- A walk from this depth has one result and one list of warnings, whatever warnings are held before it. It
comes back to the depth, whether it succeeds or fails. -/
def Walk.Steady (walk : Walk α) (depth : Nat) : Prop :=
  ∃ result warnings, ∀ held, walk.outcome ⟨depth, held⟩ = (result, ⟨depth, held ++ warnings⟩)

namespace Walk.Steady

variable {depth : Nat}

theorem ofExcept (result : Except Error α) : (Walk.ofExcept result).Steady depth := by
  refine ⟨result, [], fun held => ?_⟩
  rw [List.append_nil]
  cases result <;> rfl

theorem bind {walk : Walk α} {next : α → Walk β} (first : walk.Steady depth)
    (rest : ∀ value, (next value).Steady depth) : (walk >>= next).Steady depth := by
  obtain ⟨result, warnings, ends⟩ := first
  cases result with
  | error error => exact ⟨.error error, warnings, fun held => outcome_bind_error (ends held) next⟩
  | ok value =>
      obtain ⟨result, others, endsLater⟩ := rest value
      refine ⟨result, warnings ++ others, fun held => ?_⟩
      rw [outcome_bind_ok (ends held), endsLater, List.append_assoc]

theorem observe {walk : Walk α} (steady : walk.Steady depth) : (Walk.observe walk).Steady depth := by
  obtain ⟨result, warnings, ends⟩ := steady
  exact ⟨.ok result, warnings, fun held => outcome_observe (ends held)⟩

theorem walkBelow (rules : List Rule) (limit : Nat) (context : Element) (place : Place) :
    (walkBelow rules limit context place).Steady depth := by
  obtain ⟨warnings, result, walks⟩ := Walks.exists rules limit depth place context
  exact ⟨result, warnings, walkBelow_follows rules limit depth walks⟩

variable {walker : Element → Place → Walk Element}

/-- A routine is steady if the walk that it is given is. -/
theorem routine (below : ∀ context place, (walker context place).Steady depth) (routine : Routine) :
    (routine.run walker).Steady depth := by
  induction routine with
  | ok element => exact ofExcept (.ok element)
  | error cause => exact ofExcept (.error cause)
  | walk context place next ih => exact (below context place).observe.bind ih

/-- So is a rule. -/
theorem apply (below : ∀ context place, (walker context place).Steady depth) (rule : Rule)
    (context : Element) (place : Place) : (rule.apply walker context place).Steady depth := by
  rw [Rule.apply_eq_plan]
  refine (ofExcept _).bind fun plan => ?_
  cases plan with
  | done element => exact ofExcept (.ok element)
  | below inner finish => exact (below inner place).bind fun completed => ofExcept (finish completed)
  | hosted hosted => exact routine below hosted

end Walk.Steady

/-- All converters that run a steady walk from its depth get the same result and add the same warnings. -/
theorem Converter.run_of_steady {walk : Walk Element} {depth : Nat} (steady : walk.Steady depth) :
    ∃ result warnings, ∀ converter : Converter, converter.state.depth = depth →
      converter.run walk = (result, converter.record warnings) := by
  obtain ⟨result, warnings, ends⟩ := steady
  refine ⟨result, warnings, fun converter same => ?_⟩
  subst same
  exact run_eq_of_outcome (ends converter.warnings)

end ArticleRules
