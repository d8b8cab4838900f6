import ArticleRules.Proofs.Rule.Uniform
import ArticleRules.Proofs.Walk.Kind

/-
This file compares two walks over the same nodes in contexts of the same kind. What the contexts hold makes
no difference: both walks make the same edit or fail with the same error, and they report the same nodes.
-/

namespace ArticleRules

/-- A warning that remembers only the kind of its context. -/
def Warning.withoutContent (warning : Warning) : Warning :=
  { warning with context := .blank warning.context.kind }

theorem Warning.withoutContent_unrecognized {context : Element} {kind : Kind}
    (same : context.kind = kind) (place : Place) (depth : Nat) :
    (unrecognized context place depth).withoutContent = unrecognized (.blank kind) place depth := by
  subst same
  rfl

/-- Visits that make the same edit of all contexts of a kind, or fail with the same error in all of them,
and report the same nodes in the same order. -/
def VisitsAlike (rules : List Rule) (limit depth : Nat) (places : List Place) (kind : Kind) : Prop :=
  ∃ (outcome : Except Error Edit) (reported : List Warning), ∀ context, context.kind = kind →
    ∃ warnings, Visits rules limit depth places context warnings (outcome.map (·.apply context)) ∧
      warnings.map Warning.withoutContent = reported

theorem Edit.map_apply_andThen (edit : Edit) (later : Except Error Edit) (element : Element) :
    (later.map edit.andThen).map (·.apply element) = later.map (·.apply (edit.apply element)) := by
  cases later with
  | error error => rfl
  | ok other => exact congrArg Except.ok (edit.apply_andThen other element)

namespace VisitsAlike

variable {rules : List Rule} {limit depth : Nat} {place : Place} {rest : List Place} {kind : Kind}

theorem finished : VisitsAlike rules limit depth [] kind := by
  refine ⟨.ok {}, [], fun context _ => ⟨[], ?_, rfl⟩⟩
  have unchanged : Except.map (·.apply context) (.ok {} : Except Error Edit) = .ok context :=
    congrArg Except.ok (Edit.apply_blank context)
  rw [unchanged]
  exact .finished

theorem skipped (skippable : place.node.isSkippable = true)
    (later : VisitsAlike rules limit depth rest kind) :
    VisitsAlike rules limit depth (place :: rest) kind := by
  obtain ⟨outcome, reported, runs⟩ := later
  refine ⟨outcome, reported, fun context same => ?_⟩
  obtain ⟨warnings, visits, alike⟩ := runs context same
  exact ⟨warnings, .skipped skippable visits, alike⟩

theorem reported (visible : place.node.isSkippable = false)
    (unmatched : Rule.findMatch rules kind place = none)
    (later : VisitsAlike rules limit depth rest kind) :
    VisitsAlike rules limit depth (place :: rest) kind := by
  obtain ⟨outcome, reported, runs⟩ := later
  refine ⟨outcome, .unrecognized (.blank kind) place depth :: reported, fun context same => ?_⟩
  obtain ⟨warnings, visits, alike⟩ := runs context same
  refine ⟨_, .reported visible (by rw [same]; exact unmatched) visits, ?_⟩
  rw [List.map_cons, Warning.withoutContent_unrecognized same, alike]

/-- Where a rule of the library answers for the first place, contexts of the kind are treated alike as soon
as they are treated alike below the place and after it. -/
theorem matched {rule : Rule} (builtIn : rule.isBuiltIn = true) (visible : place.node.isSkippable = false)
    (found : Rule.findMatch rules kind place = some rule)
    (below : ∀ inside, VisitsAlike rules limit (depth + 1) place.children inside)
    (later : VisitsAlike rules limit depth rest kind) :
    VisitsAlike rules limit depth (place :: rest) kind := by
  have dispatched : kind = rule.context := (Rule.matchesAt_of_findMatch found).1
  have responds : ∀ {context planned}, context.kind = kind → rule.plan context place = planned →
      Responds rules context place rule planned := by
    intro context planned same plans
    exact ⟨visible, by rw [same]; exact found, plans⟩
  obtain ⟨outcome, reported, runs⟩ := later
  cases Rule.plansAlike builtIn place with
  | settles settled plans =>
      have planned context (same : context.kind = kind) := plans context (same.trans dispatched)
      rcases settled with error | edit
      · refine ⟨.error error, [], fun context same => ?_⟩
        exact ⟨[], .refused (responds same (planned context same)), rfl⟩
      · -- The later visits start from an edited context, which still has the kind.
        refine ⟨outcome.map edit.andThen, reported, fun context same => ?_⟩
        obtain ⟨warnings, visits, alike⟩ := runs (edit.apply context) (by rw [Edit.kind_apply, same])
        refine ⟨warnings, ?_, alike⟩
        rw [Edit.map_apply_andThen]
        exact .changed (responds same (planned context same)) visits
  | descends inside outer plans =>
      obtain deep | room := (Nat.lt_or_ge depth limit).symm
      · refine ⟨.error (.depthExceeded limit), [], fun context same => ?_⟩
        obtain ⟨inner, finish, planned, _⟩ := plans context (same.trans dispatched)
        exact ⟨[], .cut (responds same planned) deep, rfl⟩
      obtain ⟨completed, reportedBelow, runsBelow⟩ := below inside
      rcases completed with error | edit
      · refine ⟨.error error, reportedBelow, fun context same => ?_⟩
        obtain ⟨inner, finish, planned, sameBelow, _⟩ := plans context (same.trans dispatched)
        obtain ⟨warnings, visits, alike⟩ := runsBelow inner sameBelow
        exact ⟨warnings, .failedBelow (responds same planned) room visits, alike⟩
      · refine ⟨outcome.map (outer edit).andThen, reportedBelow ++ reported, fun context same => ?_⟩
        obtain ⟨inner, finish, planned, sameBelow, finishes⟩ := plans context (same.trans dispatched)
        obtain ⟨warningsBelow, visitsBelow, alikeBelow⟩ := runsBelow inner sameBelow
        obtain ⟨warnings, visits, alike⟩ :=
          runs ((outer edit).apply context) (by rw [Edit.kind_apply, same])
        refine ⟨warningsBelow ++ warnings, ?_, ?_⟩
        · rw [Edit.map_apply_andThen]
          exact .completed (responds same planned) room visitsBelow (finishes edit) visits
        · rw [List.map_append, alikeBelow, alike]

/-- Visits treat contexts of a kind alike as soon as the walks below each of the places do. -/
theorem of_below (builtIn : Rule.AllBuiltIn rules) {places : List Place}
    (below : ∀ place ∈ places, ∀ depth kind, VisitsAlike rules limit depth place.children kind) :
    VisitsAlike rules limit depth places kind := by
  induction places with
  | nil => exact finished
  | cons place rest ih =>
      have later := ih fun other member => below other (List.mem_cons_of_mem _ member)
      cases visible : place.node.isSkippable with
      | true => exact skipped visible later
      | false =>
          cases found : Rule.findMatch rules kind place with
          | none => exact reported visible found later
          | some rule =>
              have builtIn := builtIn rule (Rule.mem_of_findMatch found)
              exact matched builtIn visible found (below place List.mem_cons_self (depth + 1)) later

theorem children (builtIn : Rule.AllBuiltIn rules) (limit : Nat) (place : Place) (depth : Nat)
    (kind : Kind) :
    VisitsAlike rules limit depth place.children kind := by
  -- The kind changes on the way down, so the children have to be treated alike for every kind.
  induction place using Place.induction_on_children generalizing depth kind with
  | step place ih => exact of_below builtIn ih

end VisitsAlike

/-- What a transformation does depends on the kind of its context, never on its content. From two contexts
of the same kind it makes the same edit or fails with the same error, and the warnings that it adds differ
in the content of their contexts only. -/
theorem Converter.transform_alike (converter : Converter) (builtIn : Rule.AllBuiltIn converter.rules)
    (place : Place) (first second : Element) (same : first.kind = second.kind) :
    ∃ warnings others,
      (converter.transform first place).2 = converter.record warnings ∧
      (converter.transform second place).2 = converter.record others ∧
      warnings.map Warning.withoutContent = others.map Warning.withoutContent ∧
      ((∃ error, (converter.transform first place).1 = .error error ∧
          (converter.transform second place).1 = .error error) ∨
        ∃ edit : Edit, (converter.transform first place).1 = .ok (edit.apply first) ∧
          (converter.transform second place).1 = .ok (edit.apply second)) := by
  obtain room | deep := Nat.lt_or_ge converter.state.depth converter.maxDepth
  · obtain ⟨outcome, reported, runs⟩ := VisitsAlike.children builtIn converter.maxDepth place
      (converter.state.depth + 1) second.kind
    obtain ⟨warnings, visits, alike⟩ := runs first same
    obtain ⟨others, visitsToo, alikeToo⟩ := runs second rfl
    rw [transform_eq_of_walks (.entered room visits), transform_eq_of_walks (.entered room visitsToo)]
    refine ⟨warnings, others, rfl, rfl, alike.trans alikeToo.symm, ?_⟩
    cases outcome with
    | error error => exact Or.inl ⟨error, rfl, rfl⟩
    | ok edit => exact Or.inr ⟨edit, rfl, rfl⟩
  · rw [transform_eq_of_walks (.cut deep), transform_eq_of_walks (.cut deep)]
    exact ⟨[], [], rfl, rfl, rfl, Or.inl ⟨_, rfl, rfl⟩⟩

theorem Converter.transform_alike_heading :
    ∃ edit : Edit,
      (heading.transform (.article {}) (.root .boxes)).1 = .ok (edit.apply (.article {})) ∧
      (heading.transform (.article { header := some { title := some "News" } }) (.root .boxes)).1 =
        .ok (edit.apply (.article { header := some { title := some "News" } })) := by
  have succeeds : (heading.transform (.article {}) (.root .boxes)).1 =
      .ok (.article { header := some {} }) := rfl
  obtain ⟨_, _, _, _, _, ⟨error, failed, _⟩ | edited⟩ := transform_alike heading heading_builtIn
    (.root .boxes) (.article {}) (.article { header := some { title := some "News" } }) rfl
  · rw [succeeds] at failed
    cases failed
  · exact edited

end ArticleRules
