import ArticleRules.Proofs.Element.Flaw

/-
This file states what computations ensure of their values. A computation that fails ensures anything, and a
sequence ensures what its last part ensures of what the parts before it can give.
-/

namespace ArticleRules

/-- If the computation succeeds, its value has the property. -/
def Ensures (property : α → Prop) (outcome : Except Error α) : Prop :=
  ∀ value, outcome = .ok value → property value

namespace Ensures

variable {property : α → Prop}

theorem pure {value : α} (holds : property value) : Ensures property (Pure.pure value) := by
  intro other succeeded
  cases succeeded
  exact holds

theorem throw (error : Error) : Ensures property (.error error) := by
  intro value succeeded
  cases succeeded

theorem bind {middle : β → Prop} {outcome : Except Error β} {next : β → Except Error α}
    (first : Ensures middle outcome) (rest : ∀ value, middle value → Ensures property (next value)) :
    Ensures property (outcome >>= next) := by
  intro value succeeded
  obtain ⟨between, firstSucceeded, restSucceeded⟩ := Except.bind_eq_ok succeeded
  exact rest between (first between firstSucceeded) value restSucceeded

/-- A first part of which nothing is asked. -/
theorem after {outcome : Except Error β} {next : β → Except Error α}
    (rest : ∀ value, Ensures property (next value)) : Ensures property (outcome >>= next) := by
  have first : Ensures (fun _ => True) outcome := fun _ _ => trivial
  exact first.bind fun value _ => rest value

end Ensures

/-- The body of an article takes interactive elements and videos, after those that it has. -/
theorem Article.addChild_eq_ok {article next : Article} {child : Element}
    (added : article.addChild child = .ok next) :
    (child.kind = .interactive ∨ child.kind = .video) ∧
      next = { article with children := article.children ++ [child] } := by
  cases child with
  | interactive content =>
      cases added
      exact ⟨Or.inl rfl, rfl⟩
  | video content =>
      cases added
      exact ⟨Or.inr rfl, rfl⟩
  | article | header | caption => cases added

end ArticleRules
