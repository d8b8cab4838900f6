import ArticleRules.Walk.Basic

/-
This file reads off what a walk returns and what it leaves behind, one operation at a time.
-/

namespace ArticleRules.Walk

/-- The outcome of a walk from a state: its result, and the state that it leaves behind. -/
def outcome (walk : Walk α) (state : WalkState) : Except Error α × WalkState :=
  walk.run state

/-- A walk is what comes out of it. -/
theorem ext {walk other : Walk α} (same : ∀ state, walk.outcome state = other.outcome state) :
    walk = other :=
  funext same

@[simp] theorem outcome_pure (value : α) (state : WalkState) :
    (pure value : Walk α).outcome state = (.ok value, state) := rfl

@[simp] theorem outcome_throw (error : Error) (state : WalkState) :
    (throw error : Walk α).outcome state = (.error error, state) := rfl

theorem outcome_ofExcept (result : Except Error α) (state : WalkState) :
    (ofExcept result).outcome state = (result, state) := by
  cases result <;> rfl

theorem outcome_get (state : WalkState) :
    (get : Walk WalkState).outcome state = (.ok state, state) := rfl

/-- A failure ends a sequence of walks, and the state at the failure remains. -/
theorem outcome_bind (walk : Walk α) (next : α → Walk β) (state : WalkState) :
    (walk >>= next).outcome state =
      match walk.outcome state with
      | (.ok value, after) => (next value).outcome after
      | (.error error, after) => (.error error, after) := by
  change (StateT.bind walk.run (ExceptT.bindCont next)) state = _
  unfold StateT.bind outcome
  rcases walk.run state with ⟨_ | _, after⟩ <;> rfl

theorem outcome_bind_ok {walk : Walk α} {state after : WalkState} {value : α}
    (finished : walk.outcome state = (.ok value, after)) (next : α → Walk β) :
    (walk >>= next).outcome state = (next value).outcome after := by
  rw [outcome_bind, finished]

theorem outcome_bind_error {walk : Walk α} {state after : WalkState} {error : Error}
    (failed : walk.outcome state = (.error error, after)) (next : α → Walk β) :
    (walk >>= next).outcome state = (.error error, after) := by
  rw [outcome_bind, failed]

/-- An observed walk succeeds with its own result. -/
theorem outcome_observe {walk : Walk α} {state after : WalkState} {result : Except Error α}
    (ran : walk.outcome state = (result, after)) :
    (observe walk).outcome state = (.ok result, after) := by
  have handed : (observe walk).outcome state = (.ok (walk.outcome state).1, (walk.outcome state).2) := rfl
  rw [handed, ran]

theorem outcome_warn (context : Element) (place : Place) (state : WalkState) :
    (warn context place).outcome state =
      (.ok (), { state with
        warnings := state.warnings ++ [.unrecognized context place state.depth] }) := rfl

/-- A walk at the limit is cut before it starts. -/
theorem outcome_nested_deep {limit : Nat} {state : WalkState} (deep : limit ≤ state.depth)
    (inner : Walk α) :
    (nested limit inner).outcome state = (.error (.depthExceeded limit), state) := by
  rw [nested, outcome_bind, outcome_get]
  simp [deep]

/-- Below the limit a nested walk counts its depth up before and down after. -/
theorem outcome_nested_room {limit : Nat} {state after : WalkState} {inner : Walk α}
    {result : Except Error α} (room : state.depth < limit)
    (ran : inner.outcome { state with depth := state.depth + 1 } = (result, after)) :
    (nested limit inner).outcome state = (result, { after with depth := after.depth - 1 }) := by
  have counted : (nested limit inner).outcome state =
      ((inner.outcome { state with depth := state.depth + 1 }).1,
        { (inner.outcome { state with depth := state.depth + 1 }).2 with
          depth := (inner.outcome { state with depth := state.depth + 1 }).2.depth - 1 }) := by
    rw [nested, outcome_bind, outcome_get]
    simp only [Nat.not_le.2 room, if_false]
    rfl
  rw [counted, ran]

end ArticleRules.Walk
