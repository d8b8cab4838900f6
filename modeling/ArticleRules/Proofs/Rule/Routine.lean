import ArticleRules.Proofs.Walk.Outcome
import ArticleRules.Rule.Effect

/-
This file lists the walks that a routine starts. What the routine ends with depends on what these walks
come back with, and on nothing else.
-/

namespace ArticleRules

/-- One walk that a routine started, with what it reported and what it came back with. -/
structure HostWalk where
  context : Element
  place : Place
  warnings : List Warning
  result : Except Error Element

/-- A walk at the limit fails at once. -/
def HostWalk.IsCut (walk : HostWalk) (limit : Nat) : Prop :=
  walk.warnings = [] ∧ walk.result = .error (.depthExceeded limit)

namespace Routine

/-- A routine starts these walks one after the other, and then it ends. -/
inductive Runs : Routine → List HostWalk → Except Error Element → Prop where
  | ok : Runs (.ok element) [] (.ok element)
  | error : Runs (.error cause) [] (.error cause)
  | walk (later : Runs (next outcome) walks result) :
      Runs (.walk context place next) (⟨context, place, warnings, outcome⟩ :: walks) result

/-- Every routine has a run if all walks come back. -/
theorem exists_runs (Returns : HostWalk → Prop)
    (returns : ∀ context place, ∃ warnings result, Returns ⟨context, place, warnings, result⟩)
    (routine : Routine) :
    ∃ walks result, routine.Runs walks result ∧ ∀ walk ∈ walks, Returns walk := by
  induction routine with
  | ok element => exact ⟨[], .ok element, .ok, by simp⟩
  | error cause => exact ⟨[], .error cause, .error, by simp⟩
  | walk context place next ih =>
      obtain ⟨warnings, outcome, first⟩ := returns context place
      obtain ⟨walks, result, later, others⟩ := ih outcome
      exact ⟨_, result, .walk later, List.forall_mem_cons.2 ⟨first, others⟩⟩

/-- A routine that runs reports what its walks report, and comes back to its depth if they do. -/
theorem Runs.outcome_run {routine : Routine} {walks : List HostWalk} {result : Except Error Element}
    {walker : Element → Place → Walk Element} {depth : Nat} (runs : routine.Runs walks result)
    (follows : ∀ walk ∈ walks, ∀ held, (walker walk.context walk.place).outcome ⟨depth, held⟩ =
      (walk.result, ⟨depth, held ++ walk.warnings⟩)) (held : List Warning) :
    (routine.run walker).outcome ⟨depth, held⟩ =
      (result, ⟨depth, held ++ walks.flatMap HostWalk.warnings⟩) := by
  induction runs generalizing held with
  | ok => rw [run, Walk.outcome_pure, List.flatMap_nil, List.append_nil]
  | error => rw [run, Walk.outcome_throw, List.flatMap_nil, List.append_nil]
  | walk later ih =>
      obtain ⟨first, others⟩ := List.forall_mem_cons.1 follows
      rw [run, Walk.outcome_bind_ok (Walk.outcome_observe (first held)), ih others, List.flatMap_cons,
        List.append_assoc]

/-- A routine fails only with an error that one of its walks came back with. -/
def Relays (routine : Routine) : Prop :=
  ∀ walks cause, routine.Runs walks (.error cause) → ∃ walk ∈ walks, walk.result = .error cause

/-- A routine that stays starts no walk. -/
def stays : Routine → Bool
  | ok _ | error _ => true
  | walk _ _ _ => false

theorem Runs.eq_nil_of_stays {routine : Routine} {walks : List HostWalk} {result : Except Error Element}
    (runs : routine.Runs walks result) (stays : routine.stays = true) : walks = [] := by
  cases runs with
  | ok | error => rfl
  | walk later => cases stays

end Routine

end ArticleRules
