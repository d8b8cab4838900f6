import ArticleRules.Proofs.Rule.Dispatch
import ArticleRules.Proofs.Tree.Children
import ArticleRules.Walk.Converter

/-
This file gives the course of a walk as a relation. Its rules say what can happen at the next sibling, and
the walk that runs follows them: every visit has exactly one course, whatever warnings are held before.
-/

namespace ArticleRules

/-- Siblings visited in order at a depth turn a context into a result, and report warnings on the way. -/
inductive Visits (rules : List Rule) (limit : Nat) :
    Nat → List Place → Element → List Warning → Except Error Element → Prop where
  | finished : Visits rules limit depth [] context [] (.ok context)
  | skipped (skippable : place.node.isSkippable = true)
      (later : Visits rules limit depth rest context warnings result) :
      Visits rules limit depth (place :: rest) context warnings result
  | reported (visible : place.node.isSkippable = false)
      (unmatched : Rule.findMatch rules context.kind place = none)
      (later : Visits rules limit depth rest context warnings result) :
      Visits rules limit depth (place :: rest) context
        (.unrecognized context place depth :: warnings) result
  | refused (response : Responds rules context place rule (.error error)) :
      Visits rules limit depth (place :: rest) context [] (.error error)
  | changed (response : Responds rules context place rule (.ok (.done next)))
      (later : Visits rules limit depth rest next warnings result) :
      Visits rules limit depth (place :: rest) context warnings result
  | cut {inner : Element}
      (response : Responds rules context place rule (.ok (.below inner finish)))
      (deep : limit ≤ depth) :
      Visits rules limit depth (place :: rest) context [] (.error (.depthExceeded limit))
  | failedBelow {inner : Element}
      (response : Responds rules context place rule (.ok (.below inner finish)))
      (room : depth < limit)
      (below : Visits rules limit (depth + 1) place.children inner warnings (.error error)) :
      Visits rules limit depth (place :: rest) context warnings (.error error)
  | refusedAfter {inner : Element}
      (response : Responds rules context place rule (.ok (.below inner finish)))
      (room : depth < limit)
      (below : Visits rules limit (depth + 1) place.children inner warnings (.ok completed))
      (refusal : finish completed = .error error) :
      Visits rules limit depth (place :: rest) context warnings (.error error)
  | completed {inner : Element}
      (response : Responds rules context place rule (.ok (.below inner finish)))
      (room : depth < limit)
      (below : Visits rules limit (depth + 1) place.children inner inside (.ok completed))
      (finishes : finish completed = .ok next)
      (later : Visits rules limit depth rest next warnings result) :
      Visits rules limit depth (place :: rest) context (inside ++ warnings) result
  -- At the limit all walks that a host starts are cut, and below it none of them is.
  | hostFailed (response : Responds rules context place rule (.ok (.hosted routine)))
      (runs : routine.Runs walks (.error error))
      (cut : limit ≤ depth → ∀ walk ∈ walks, walk.IsCut limit)
      (below : depth < limit → ∀ walk ∈ walks,
        Visits rules limit (depth + 1) walk.place.children walk.context walk.warnings walk.result) :
      Visits rules limit depth (place :: rest) context (walks.flatMap HostWalk.warnings) (.error error)
  | hostEnded (response : Responds rules context place rule (.ok (.hosted routine)))
      (runs : routine.Runs walks (.ok next))
      (cut : limit ≤ depth → ∀ walk ∈ walks, walk.IsCut limit)
      (below : depth < limit → ∀ walk ∈ walks,
        Visits rules limit (depth + 1) walk.place.children walk.context walk.warnings walk.result)
      (later : Visits rules limit depth rest next warnings result) :
      Visits rules limit depth (place :: rest) context (walks.flatMap HostWalk.warnings ++ warnings) result

/-- A walk below a place is cut at the limit, or it visits the children of the place one level deeper. -/
inductive Walks (rules : List Rule) (limit depth : Nat) (place : Place) (context : Element) :
    List Warning → Except Error Element → Prop where
  | cut (deep : limit ≤ depth) :
      Walks rules limit depth place context [] (.error (.depthExceeded limit))
  | entered (room : depth < limit)
      (visits : Visits rules limit (depth + 1) place.children context warnings result) :
      Walks rules limit depth place context warnings result

-- A visit with any walk, by what happens at the place.
section visit

variable {rules : List Rule} {context : Element} {place : Place}
  (walker : Element → Place → Walk Element)

theorem visit_skipped (skippable : place.node.isSkippable = true) (rules : List Rule)
    (context : Element) : visit rules walker context place = pure context := by
  rw [visit, if_pos skippable]

theorem visit_reported (visible : place.node.isSkippable = false)
    (unmatched : Rule.findMatch rules context.kind place = none) :
    visit rules walker context place = (do Walk.warn context place; pure context) := by
  simp only [visit, visible, unmatched, Bool.false_eq_true, if_false]

theorem visit_responds {rule : Rule} {planned : Except Error Plan}
    (response : Responds rules context place rule planned) :
    visit rules walker context place = Walk.ofExcept planned >>= Plan.run walker place := by
  simp only [visit, response.visible, response.matched, Bool.false_eq_true, if_false]
  rw [Rule.apply_eq_plan, response.plans]

end visit

/-- From this depth the given walk follows the courses of walks. It restores the depth and only adds
warnings. -/
def FollowsWalks (rules : List Rule) (limit depth : Nat) (walker : Element → Place → Walk Element) : Prop :=
  ∀ ⦃context place warnings result⦄, Walks rules limit depth place context warnings result →
    ∀ held, (walker context place).outcome ⟨depth, held⟩ = (result, ⟨depth, held ++ warnings⟩)

/-- At the limit there is no walk but the one that is cut. -/
theorem Walks.eq_of_deep {rules : List Rule} {limit depth : Nat} {place : Place} {context : Element}
    {warnings : List Warning} {result : Except Error Element}
    (walks : Walks rules limit depth place context warnings result) (deep : limit ≤ depth) :
    warnings = [] ∧ result = .error (.depthExceeded limit) := by
  cases walks with
  | cut _ => exact ⟨rfl, rfl⟩
  | entered room visits => exact absurd deep (Nat.not_le.2 room)

/-- Below the limit there are none but those that visit the children. -/
theorem Walks.visits {rules : List Rule} {limit depth : Nat} {place : Place} {context : Element}
    {warnings : List Warning} {result : Except Error Element}
    (walks : Walks rules limit depth place context warnings result) (room : depth < limit) :
    Visits rules limit (depth + 1) place.children context warnings result := by
  cases walks with
  | cut deep => exact absurd deep (Nat.not_le.2 room)
  | entered _ visits => exact visits

/-- The walks that a host starts are walks at the depth of the node. -/
theorem HostWalk.walks {rules : List Rule} {limit depth : Nat} {walks : List HostWalk}
    (cut : limit ≤ depth → ∀ walk ∈ walks, walk.IsCut limit)
    (below : depth < limit → ∀ walk ∈ walks,
      Visits rules limit (depth + 1) walk.place.children walk.context walk.warnings walk.result) :
    ∀ walk ∈ walks, Walks rules limit depth walk.place walk.context walk.warnings walk.result := by
  intro walk member
  obtain room | deep := Nat.lt_or_ge depth limit
  · exact .entered room (below room walk member)
  · obtain ⟨silent, failed⟩ := cut deep walk member
    rw [silent, failed]
    exact .cut deep

/-- Visits with a walk that follows its courses follow theirs. -/
theorem Visits.outcome_foldlM {rules : List Rule} {limit depth : Nat} {places : List Place}
    {context : Element} {warnings : List Warning} {result : Except Error Element}
    {walker : Element → Place → Walk Element}
    (visits : Visits rules limit depth places context warnings result)
    (follows : FollowsWalks rules limit depth walker) (held : List Warning) :
    (places.foldlM (visit rules walker) context : Walk Element).outcome ⟨depth, held⟩ =
      (result, ⟨depth, held ++ warnings⟩) := by
  -- The courses of walks below are left to the given walk, so the induction goes from place to place.
  induction visits generalizing held with
  | finished =>
      rw [List.foldlM_nil, Walk.outcome_pure, List.append_nil]
  | skipped skippable later ih =>
      rw [List.foldlM_cons, visit_skipped walker skippable, pure_bind]
      exact ih follows held
  | reported visible unmatched later ih =>
      rw [List.foldlM_cons, visit_reported walker visible unmatched, bind_assoc,
        Walk.outcome_bind_ok (Walk.outcome_warn _ _ _), pure_bind, ih follows, List.append_assoc]
      rfl
  | refused response =>
      rw [List.foldlM_cons, visit_responds walker response, List.append_nil]
      rfl
  | changed response later ih =>
      rw [List.foldlM_cons, visit_responds walker response]
      exact ih follows held
  | cut response deep =>
      rw [List.foldlM_cons, visit_responds walker response, Walk.ofExcept_ok, pure_bind, Plan.run,
        bind_assoc, Walk.outcome_bind_error (follows (.cut deep) held)]
  | failedBelow response room below =>
      rw [List.foldlM_cons, visit_responds walker response, Walk.ofExcept_ok, pure_bind, Plan.run,
        bind_assoc, Walk.outcome_bind_error (follows (.entered room below) held)]
  | refusedAfter response room below refusal =>
      rw [List.foldlM_cons, visit_responds walker response, Walk.ofExcept_ok, pure_bind, Plan.run,
        bind_assoc, Walk.outcome_bind_ok (follows (.entered room below) held), refusal]
      rfl
  | completed response room below finishes later ihBelow ihLater =>
      rw [List.foldlM_cons, visit_responds walker response, Walk.ofExcept_ok, pure_bind, Plan.run,
        bind_assoc, Walk.outcome_bind_ok (follows (.entered room below) held), finishes,
        Walk.ofExcept_ok, pure_bind, ihLater follows, List.append_assoc]
  | hostFailed response runs cut below =>
      have ran := runs.outcome_run (fun walk member => follows (HostWalk.walks cut below walk member)) held
      rw [List.foldlM_cons, visit_responds walker response, Walk.ofExcept_ok, pure_bind, Plan.run,
        Walk.outcome_bind_error ran]
  | hostEnded response runs cut below later ihBelow ihLater =>
      have ran := runs.outcome_run (fun walk member => follows (HostWalk.walks cut below walk member)) held
      rw [List.foldlM_cons, visit_responds walker response, Walk.ofExcept_ok, pure_bind, Plan.run,
        Walk.outcome_bind_ok ran, ihLater follows, List.append_assoc]

/-- With room for the levels up to the limit, walks follow their courses. -/
theorem walkWithin_follows (rules : List Rule) {limit depth room : Nat} (levels : limit - depth = room) :
    FollowsWalks rules limit depth (walkWithin rules limit room) := by
  intro context place warnings result walks held
  induction room generalizing depth context place warnings result held with
  | zero =>
      cases walks with
      | cut deep => rw [walkWithin, Walk.outcome_throw, List.append_nil]
      | entered space visits => omega
  | succ room ih =>
      cases walks with
      | cut deep => omega
      | entered space visits =>
          have ran := visits.outcome_foldlM
            (fun _ _ _ _ walks held => ih (by omega) walks held) held
          rw [walkWithin, Walk.outcome_nested_room space ran, Nat.add_sub_cancel]

/-- Walks follow their courses from every depth. -/
theorem walkBelow_follows (rules : List Rule) (limit depth : Nat) :
    FollowsWalks rules limit depth (walkBelow rules limit) := by
  intro context place warnings result walks held
  rw [walkBelow, Walk.outcome_bind_ok (Walk.outcome_get _)]
  exact walkWithin_follows rules rfl walks held

section course

variable {rules : List Rule} {limit depth : Nat} {place : Place} {rest : List Place} {context : Element}
  {rule : Rule}

/-- Where a rule went on below the first place, the visits have a course as soon as the later ones have one.
It starts with what is reported below. -/
theorem Visits.exists_after_below {inner : Element} {finish : Element → Except Error Element}
    {inside : List Warning} {outcome : Except Error Element}
    (response : Responds rules context place rule (.ok (.below inner finish))) (room : depth < limit)
    (below : Visits rules limit (depth + 1) place.children inner inside outcome)
    (later : ∀ context, ∃ warnings result, Visits rules limit depth rest context warnings result) :
    ∃ warnings result, Visits rules limit depth (place :: rest) context warnings result ∧
      inside <+: warnings := by
  cases outcome with
  | error error => exact ⟨_, _, .failedBelow response room below, List.prefix_rfl⟩
  | ok completed =>
      cases finishes : finish completed with
      | error error => exact ⟨_, _, .refusedAfter response room below finishes, List.prefix_rfl⟩
      | ok next =>
          obtain ⟨warnings, result, later⟩ := later next
          exact ⟨_, _, .completed response room below finishes later, List.prefix_append _ _⟩

/-- Where a host started walks, the visits have a course as soon as the later ones have one. -/
theorem Visits.exists_after_routine {routine : Routine} {walks : List HostWalk}
    {ended : Except Error Element} (response : Responds rules context place rule (.ok (.hosted routine)))
    (runs : routine.Runs walks ended)
    (courses : ∀ walk ∈ walks, Walks rules limit depth walk.place walk.context walk.warnings walk.result)
    (later : ∀ context, ∃ warnings result, Visits rules limit depth rest context warnings result) :
    ∃ warnings result, Visits rules limit depth (place :: rest) context warnings result := by
  have cut := fun deep walk member => (courses walk member).eq_of_deep deep
  have below := fun room walk member => (courses walk member).visits room
  cases ended with
  | error error => exact ⟨_, _, .hostFailed response runs cut below⟩
  | ok next =>
      obtain ⟨warnings, result, later⟩ := later next
      exact ⟨_, _, .hostEnded response runs cut below later⟩

/-- A plan for the first place can be carried out if the walks that start there and the later visits can. -/
theorem Visits.exists_of_plan {plan : Plan} (response : Responds rules context place rule (.ok plan))
    (walks : ∀ context place, ∃ warnings result, Walks rules limit depth place context warnings result)
    (later : ∀ context, ∃ warnings result, Visits rules limit depth rest context warnings result) :
    ∃ warnings result, Visits rules limit depth (place :: rest) context warnings result := by
  cases plan with
  | done next =>
      obtain ⟨warnings, result, later⟩ := later next
      exact ⟨_, _, .changed response later⟩
  | below inner finish =>
      obtain ⟨inside, outcome, course⟩ := walks inner place
      cases course with
      | cut deep => exact ⟨_, _, .cut response deep⟩
      | entered room visits =>
          obtain ⟨warnings, result, visits, _⟩ := exists_after_below response room visits later
          exact ⟨warnings, result, visits⟩
  | hosted routine =>
      obtain ⟨started, ended, runs, courses⟩ := routine.exists_runs
        (fun walk => Walks rules limit depth walk.place walk.context walk.warnings walk.result) walks
      exact exists_after_routine response runs courses later

/-- Visits have a course as soon as the walks from their depth have one. -/
theorem Visits.exists_of_walks
    (walks : ∀ context place, ∃ warnings result, Walks rules limit depth place context warnings result)
    (places : List Place) (context : Element) :
    ∃ warnings result, Visits rules limit depth places context warnings result := by
  induction places generalizing context with
  | nil => exact ⟨_, _, .finished⟩
  | cons place rest later =>
      cases visible : place.node.isSkippable with
      | true =>
          obtain ⟨warnings, result, later⟩ := later context
          exact ⟨_, _, .skipped visible later⟩
      | false =>
          cases matched : Rule.findMatch rules context.kind place with
          | none =>
              obtain ⟨warnings, result, later⟩ := later context
              exact ⟨_, _, .reported visible matched later⟩
          | some rule =>
              cases plans : rule.plan context place with
              | error error => exact ⟨_, _, .refused ⟨visible, matched, plans⟩⟩
              | ok plan => exact exists_of_plan ⟨visible, matched, plans⟩ walks later

end course

/-- Every walk has a course, by induction on the room that is left up to the limit. -/
theorem Walks.exists (rules : List Rule) (limit depth : Nat) (place : Place) (context : Element) :
    ∃ warnings result, Walks rules limit depth place context warnings result := by
  induction levels : limit - depth generalizing depth place context with
  | zero => exact ⟨_, _, .cut (Nat.sub_eq_zero_iff_le.1 levels)⟩
  | succ room ih =>
      obtain ⟨warnings, result, visits⟩ := Visits.exists_of_walks
        (fun context place => ih (depth + 1) place context (by omega)) place.children context
      exact ⟨warnings, result, .entered (by omega) visits⟩

theorem Visits.exists (rules : List Rule) (limit depth : Nat) (places : List Place) (context : Element) :
    ∃ warnings result, Visits rules limit depth places context warnings result :=
  exists_of_walks (fun context place => Walks.exists rules limit depth place context) places context

/-- Two courses of the same visits are the same. -/
theorem Visits.unique {rules : List Rule} {limit depth : Nat} {places : List Place}
    {context : Element} {warnings others : List Warning} {result other : Except Error Element}
    (first : Visits rules limit depth places context warnings result)
    (second : Visits rules limit depth places context others other) :
    warnings = others ∧ result = other := by
  have follows := walkBelow_follows rules limit depth
  have equal := (first.outcome_foldlM follows []).symm.trans (second.outcome_foldlM follows [])
  simpa [and_comm] using equal

/-- A walk below a node counts its depth, and visits the children with walks of the same sort. -/
theorem walkBelow_eq_nested (rules : List Rule) (limit : Nat) (context : Element) (place : Place) :
    walkBelow rules limit context place =
      Walk.nested limit (place.children.foldlM (visit rules (walkBelow rules limit)) context) := by
  refine Walk.ext fun ⟨depth, held⟩ => ?_
  obtain ⟨warnings, result, walks⟩ := Walks.exists rules limit depth place context
  rw [walkBelow_follows rules limit depth walks held]
  cases walks with
  | cut deep => rw [Walk.outcome_nested_deep deep, List.append_nil]
  | entered room visits =>
      have ran := visits.outcome_foldlM (walkBelow_follows rules limit (depth + 1)) held
      rw [Walk.outcome_nested_room room ran, Nat.add_sub_cancel]

namespace Converter

/-- The converter after it has recorded more warnings. -/
def record (converter : Converter) (reported : List Warning) : Converter :=
  { converter with state := { converter.state with warnings := converter.warnings ++ reported } }

/-- A converter that runs a walk gets its result and records the warnings that it adds. -/
theorem run_eq_of_outcome {converter : Converter} {walk : Walk α} {result : Except Error α}
    {warnings : List Warning}
    (ran : walk.outcome converter.state =
      (result, ⟨converter.state.depth, converter.warnings ++ warnings⟩)) :
    converter.run walk = (result, converter.record warnings) := by
  rw [Walk.outcome] at ran
  rw [run, ran]
  rfl

theorem transform_eq_of_walks {converter : Converter} {context : Element} {place : Place}
    {warnings : List Warning} {result : Except Error Element}
    (walks : Walks converter.rules converter.maxDepth converter.state.depth place context warnings
      result) :
    converter.transform context place = (result, converter.record warnings) :=
  run_eq_of_outcome (walkBelow_follows _ _ _ walks converter.warnings)

/-- Every transformation follows the course of its walk. It adds the warnings of the walk to those held,
and leaves the converter as it was in all else. -/
theorem transform_walks (converter : Converter) (context : Element) (place : Place) :
    ∃ warnings result,
      Walks converter.rules converter.maxDepth converter.state.depth place context warnings result ∧
        converter.transform context place = (result, converter.record warnings) := by
  obtain ⟨warnings, result, walks⟩ :=
    Walks.exists converter.rules converter.maxDepth converter.state.depth place context
  exact ⟨warnings, result, walks, transform_eq_of_walks walks⟩

/-- Two transformations end alike with the same element or the same error, and they remember the same. -/
def EndAlike (first second : Except Error Element × Converter) : Prop :=
  first.1 = second.1 ∧ first.2.state = second.2.state

/-- Two transformations from one state end alike if their walks have the same course. -/
theorem endAlike_of_walks (first second : Converter) (same : first.state = second.state)
    {context : Element} {place : Place} {warnings : List Warning} {result : Except Error Element}
    (walks : Walks first.rules first.maxDepth first.state.depth place context warnings result)
    (others : Walks second.rules second.maxDepth second.state.depth place context warnings result) :
    EndAlike (first.transform context place) (second.transform context place) := by
  rw [transform_eq_of_walks walks, transform_eq_of_walks others]
  refine ⟨rfl, ?_⟩
  simp only [record, Converter.warnings, same]

end Converter

end ArticleRules
