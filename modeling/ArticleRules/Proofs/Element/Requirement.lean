import ArticleRules.Proofs.Element.Flaw
import Mathlib.Tactic.Tauto

/-
This file describes computations that check one requirement after the other. They succeed if all of them are
met, and otherwise they fail with the error of the first one that is not.
-/

namespace ArticleRules

/-- A condition, and the error if it does not hold. -/
structure Requirement where
  met : Prop
  error : Error

namespace Requirement

/-- Text for a field must not be blank. -/
def notBlank (field : Field) (value : String) : Requirement :=
  ⟨Text.trim value ≠ "", .invalidValue field value .blank⟩

def AllMet (requirements : List Requirement) : Prop :=
  ∀ requirement ∈ requirements, requirement.met

/-- The error is that of the first requirement that is not met. -/
def FirstUnmet (requirements : List Requirement) (error : Error) : Prop :=
  ∃ before unmet after, requirements = before ++ unmet :: after ∧ AllMet before ∧ ¬ unmet.met ∧
    unmet.error = error

variable {requirement : Requirement} {earlier later rest : List Requirement} {error : Error}

theorem allMet_nil : AllMet [] := nofun

theorem allMet_cons : AllMet (requirement :: rest) ↔ requirement.met ∧ AllMet rest :=
  List.forall_mem_cons

theorem allMet_append : AllMet (earlier ++ later) ↔ AllMet earlier ∧ AllMet later :=
  List.forall_mem_append

theorem not_firstUnmet_nil : ¬ FirstUnmet [] error := by
  rintro ⟨before, unmet, after, parts, _⟩
  cases before <;> cases parts

theorem firstUnmet_cons : FirstUnmet (requirement :: rest) error ↔
    (¬ requirement.met ∧ requirement.error = error) ∨ (requirement.met ∧ FirstUnmet rest error) := by
  constructor
  · rintro ⟨before, unmet, after, parts, met, fails, blamed⟩
    cases before with
    | nil =>
        cases parts
        exact Or.inl ⟨fails, blamed⟩
    | cons first before =>
        cases parts
        obtain ⟨metFirst, metBefore⟩ := allMet_cons.1 met
        exact Or.inr ⟨metFirst, before, unmet, after, rfl, metBefore, fails, blamed⟩
  · rintro (⟨fails, blamed⟩ | ⟨metFirst, before, unmet, after, rfl, met, fails, blamed⟩)
    · exact ⟨[], requirement, rest, rfl, allMet_nil, fails, blamed⟩
    · exact ⟨requirement :: before, unmet, after, rfl, allMet_cons.2 ⟨metFirst, met⟩, fails, blamed⟩

theorem firstUnmet_append : FirstUnmet (earlier ++ later) error ↔
    FirstUnmet earlier error ∨ (AllMet earlier ∧ FirstUnmet later error) := by
  induction earlier with
  | nil => simp [not_firstUnmet_nil, allMet_nil]
  | cons first earlier ih =>
      rw [List.cons_append, firstUnmet_cons, firstUnmet_cons, allMet_cons, ih]
      tauto

/-- Where not all requirements are met, one of them is the first that is not. -/
theorem allMet_or_exists_firstUnmet (requirements : List Requirement) :
    AllMet requirements ∨ ∃ error, FirstUnmet requirements error := by
  induction requirements with
  | nil => exact Or.inl allMet_nil
  | cons first rest ih =>
      by_cases met : first.met
      · rcases ih with metRest | ⟨error, unmet⟩
        · exact Or.inl (allMet_cons.2 ⟨met, metRest⟩)
        · exact Or.inr ⟨error, firstUnmet_cons.2 (Or.inr ⟨met, unmet⟩)⟩
      · exact Or.inr ⟨first.error, firstUnmet_cons.2 (Or.inl ⟨met, rfl⟩)⟩

theorem FirstUnmet.not_allMet (unmet : FirstUnmet rest error) : ¬ AllMet rest := by
  obtain ⟨before, first, after, rfl, _, fails, _⟩ := unmet
  exact fun met => fails (met first (by simp))

end Requirement

open Requirement

/-- A computation that gives a value with the property if all requirements are met, and otherwise fails with
the error of the first one that is not. -/
structure Yields (requirements : List Requirement) (outcome : Except Error α) (property : α → Prop) :
    Prop where
  passes : AllMet requirements → ∃ value, outcome = .ok value ∧ property value
  fails : ∀ error, FirstUnmet requirements error → outcome = .error error

namespace Yields

variable {requirements earlier later : List Requirement} {met : Prop} {error : Error}
  {outcome : Except Error α} {property : α → Prop} {value : α}

theorem pure (holds : property value) : Yields [] (Pure.pure value) property :=
  ⟨fun _ => ⟨value, rfl, holds⟩, fun _ unmet => absurd unmet not_firstUnmet_nil⟩

/-- A requirement that is not met fails the computation at once. -/
theorem refused (fails : ¬ met) : Yields (⟨met, error⟩ :: later) (.error error) property := by
  refine ⟨fun all => absurd (allMet_cons.1 all).1 fails, fun other unmet => ?_⟩
  rcases firstUnmet_cons.1 unmet with ⟨_, rfl⟩ | ⟨holds, _⟩
  · rfl
  · exact absurd holds fails

/-- A requirement that is met makes no difference. -/
theorem granted (holds : met) (yields : Yields later outcome property) :
    Yields (⟨met, error⟩ :: later) outcome property := by
  refine ⟨fun all => yields.passes (allMet_cons.1 all).2, fun other unmet => ?_⟩
  rcases firstUnmet_cons.1 unmet with ⟨fails, _⟩ | ⟨_, unmet⟩
  · exact absurd holds fails
  · exact yields.fails other unmet

/-- One condition decides between a value and an error. -/
theorem single (passes : met → ∃ value, outcome = .ok value ∧ property value)
    (fails : ¬ met → outcome = .error error) : Yields [⟨met, error⟩] outcome property := by
  by_cases holds : met
  · obtain ⟨value, succeeds, proper⟩ := passes holds
    rw [succeeds]
    exact granted holds (.pure proper)
  · rw [fails holds]
    exact refused holds

theorem bind {next : α → Except Error β} {result : β → Prop} (first : Yields earlier outcome property)
    (second : ∀ value, property value → Yields later (next value) result) :
    Yields (earlier ++ later) (outcome >>= next) result := by
  constructor
  · intro all
    obtain ⟨met, metLater⟩ := allMet_append.1 all
    obtain ⟨value, succeeds, holds⟩ := first.passes met
    rw [succeeds, Except.ok_bind]
    exact (second value holds).passes metLater
  · intro error unmet
    rcases firstUnmet_append.1 unmet with unmet | ⟨met, unmet⟩
    · rw [first.fails error unmet, Except.error_bind]
    · obtain ⟨value, succeeds, holds⟩ := first.passes met
      rw [succeeds, Except.ok_bind, (second value holds).fails error unmet]

/-- What is done with the value afterwards cannot fail. -/
theorem map (first : Yields earlier outcome property) {make : α → β} {result : β → Prop}
    (holds : ∀ value, property value → result (make value)) :
    Yields earlier (outcome >>= fun value => Pure.pure (make value)) result := by
  rw [← List.append_nil earlier]
  exact first.bind fun value met => .pure (holds value met)

theorem mono {weaker : α → Prop} (yields : Yields requirements outcome property)
    (holds : ∀ value, property value → weaker value) : Yields requirements outcome weaker := by
  refine ⟨fun met => ?_, yields.fails⟩
  obtain ⟨value, succeeds, proper⟩ := yields.passes met
  exact ⟨value, succeeds, holds value proper⟩

theorem exists_eq_ok_iff (yields : Yields requirements outcome property) :
    (∃ value, outcome = .ok value) ↔ AllMet requirements := by
  constructor
  · rintro ⟨value, succeeded⟩
    rcases allMet_or_exists_firstUnmet requirements with all | ⟨error, unmet⟩
    · exact all
    · rw [yields.fails error unmet] at succeeded
      cases succeeded
  · intro all
    obtain ⟨value, succeeds, _⟩ := yields.passes all
    exact ⟨value, succeeds⟩

theorem of_eq_ok (yields : Yields requirements outcome property) (succeeded : outcome = .ok value) :
    property value := by
  obtain ⟨other, succeeds, holds⟩ := yields.passes (yields.exists_eq_ok_iff.1 ⟨value, succeeded⟩)
  rw [succeeds] at succeeded
  cases succeeded
  exact holds

theorem eq_error_iff (yields : Yields requirements outcome property) :
    outcome = .error error ↔ FirstUnmet requirements error := by
  constructor
  · intro failed
    rcases allMet_or_exists_firstUnmet requirements with all | ⟨first, unmet⟩
    · obtain ⟨value, succeeds, _⟩ := yields.passes all
      rw [succeeds] at failed
      cases failed
    · rw [yields.fails first unmet] at failed
      exact Except.error.inj failed ▸ unmet
  · exact yields.fails error

end Yields

/-- A computation that gives the value if all requirements are met, and otherwise fails with the error of the
first one that is not. -/
structure Checks (requirements : List Requirement) (outcome : Except Error α) (value : α) : Prop where
  passes : AllMet requirements → outcome = .ok value
  fails : ∀ error, FirstUnmet requirements error → outcome = .error error

namespace Checks

variable {requirements earlier later : List Requirement} {met : Prop} {error : Error}
  {outcome : Except Error α} {value : α}

theorem iff_yields : Checks requirements outcome value ↔ Yields requirements outcome (· = value) := by
  constructor
  · intro checks
    exact ⟨fun met => ⟨value, checks.passes met, rfl⟩, checks.fails⟩
  · intro yields
    refine ⟨fun met => ?_, yields.fails⟩
    obtain ⟨_, succeeds, rfl⟩ := yields.passes met
    exact succeeds

theorem pure (value : α) : Checks [] (Pure.pure value) value :=
  iff_yields.2 (.pure rfl)

/-- A requirement that is not met fails the computation at once. -/
theorem refused (fails : ¬ met) (value : α) :
    Checks (⟨met, error⟩ :: later) (.error error) value :=
  iff_yields.2 (.refused fails)

/-- A requirement that is met makes no difference. -/
theorem granted (holds : met) (checks : Checks later outcome value) :
    Checks (⟨met, error⟩ :: later) outcome value :=
  iff_yields.2 (.granted holds (iff_yields.1 checks))

/-- One condition decides between a value and an error. -/
theorem single (passes : met → outcome = .ok value) (fails : ¬ met → outcome = .error error) :
    Checks [⟨met, error⟩] outcome value :=
  iff_yields.2 (.single (fun holds => ⟨value, passes holds, rfl⟩) fails)

theorem bind {next : α → Except Error β} {result : β} (first : Checks earlier outcome value)
    (second : Checks later (next value) result) :
    Checks (earlier ++ later) (outcome >>= next) result := by
  refine iff_yields.2 ((iff_yields.1 first).bind ?_)
  rintro _ rfl
  exact iff_yields.1 second

/-- What is done with the value afterwards cannot fail. -/
theorem map (first : Checks earlier outcome value) (make : α → β) :
    Checks earlier (outcome >>= fun value => Pure.pure (make value)) (make value) :=
  iff_yields.2 ((iff_yields.1 first).map fun _ same => congrArg make same)

/-- After a success what comes next is checked. -/
theorem passed {done : α} {next : Except Error β} {result : β}
    (first : Checks earlier (.ok done) value) (second : Checks later next result) :
    Checks (earlier ++ later) next result := by
  constructor
  · intro all
    exact second.passes (allMet_append.1 all).2
  · intro error unmet
    rcases firstUnmet_append.1 unmet with unmet | ⟨_, unmet⟩
    · cases first.fails error unmet
    · exact second.fails error unmet

/-- After a failure nothing more is checked. -/
theorem stopped (checks : Checks earlier (.error error : Except Error α) value) {result : β} :
    Checks (earlier ++ later) (.error error) result := by
  constructor
  · intro all
    have passed := checks.passes (allMet_append.1 all).1
    cases passed
  · intro other unmet
    rcases firstUnmet_append.1 unmet with unmet | ⟨met, _⟩
    · exact congrArg Except.error (Except.error.inj (checks.fails other unmet))
    · cases checks.passes met

theorem eq_ok_iff (checks : Checks requirements outcome value) {other : α} :
    outcome = .ok other ↔ AllMet requirements ∧ other = value := by
  have yields := iff_yields.1 checks
  constructor
  · intro succeeded
    exact ⟨yields.exists_eq_ok_iff.1 ⟨other, succeeded⟩, yields.of_eq_ok succeeded⟩
  · rintro ⟨all, rfl⟩
    exact checks.passes all

theorem eq_error_iff (checks : Checks requirements outcome value) :
    outcome = .error error ↔ FirstUnmet requirements error :=
  (iff_yields.1 checks).eq_error_iff

end Checks

theorem requireText_checks (field : Field) (value : String) :
    Checks [.notBlank field value] (requireText field value) (Text.trim value) := by
  apply Checks.single
  · intro some
    simp [requireText, some]
  · intro blank
    simp [requireText, not_not.1 blank]

namespace Header

theorem setTitle_checks (header : Header) (title : String) :
    Checks [.notBlank .headerTitle title] (header.setTitle title)
      { header with title := some (Text.trim title) } :=
  let set (text : String) : Header := { header with title := some text }
  (requireText_checks .headerTitle title).map set

theorem setKicker_checks (header : Header) (kicker : String) :
    Checks [.notBlank .headerKicker kicker] (header.setKicker kicker)
      { header with kicker := some (Text.trim kicker) } :=
  let set (text : String) : Header := { header with kicker := some text }
  (requireText_checks .headerKicker kicker).map set

end Header

namespace Interactive

theorem setHtml_checks (interactive : Interactive) (html : String) :
    Checks [.notBlank .interactiveIframe html] (interactive.setHtml html)
      { interactive with html := some (Text.trim html) } :=
  let set (text : String) : Interactive := { interactive with html := some text }
  (requireText_checks .interactiveIframe html).map set

theorem setSource_checks (interactive : Interactive) (source : String) :
    Checks [.notBlank .interactiveUrl source] (interactive.setSource source)
      { interactive with source := some (Text.trim source) } :=
  let set (text : String) : Interactive := { interactive with source := some text }
  (requireText_checks .interactiveUrl source).map set

theorem setHeight_checks (interactive : Interactive) {pixels : Nat} (fits : pixels < UInt32.size) :
    Checks [⟨pixels ≠ 0, .invalidValue .interactiveHeight "0" .notPositive⟩]
      (interactive.setHeight pixels.toUInt32) { interactive with height := some pixels.toUInt32 } := by
  have zero : pixels.toUInt32 = 0 ↔ pixels = 0 := by
    rw [← UInt32.toNat_inj, UInt32.toNat_ofNat_of_lt' fits]
    rfl
  apply Checks.single
  · intro positive
    rw [setHeight, if_neg (mt zero.1 positive)]
  · intro missing
    rw [setHeight, if_pos (zero.2 (not_not.1 missing))]

end Interactive

namespace Video

theorem setUrl_checks (video : Video) (url : String) :
    Checks [.notBlank .videoUrl url] (video.setUrl url) { video with url := some (Text.trim url) } :=
  let set (text : String) : Video := { video with url := some text }
  (requireText_checks .videoUrl url).map set

/-- A media type is not blank, and then it has a slash. -/
theorem setMediaType_checks (video : Video) (name : String) :
    Checks [.notBlank .videoType name,
        ⟨'/' ∈ (Text.trim name).toList, .invalidValue .videoType (Text.trim name) .notMediaType⟩]
      (video.setMediaType name) { video with mediaType := some (Text.trim name) } := by
  apply (requireText_checks .videoType name).bind
  apply Checks.single
  · intro slash
    rw [if_pos (List.contains_iff_mem.2 slash)]
    rfl
  · intro missing
    rw [if_neg (fun slash => missing (List.contains_iff_mem.1 slash))]
    rfl

end Video

/-- The name of a presentation, with blanks around it, is read as the presentation. -/
theorem Presentation.read_name {presentation : Presentation} {name : String}
    (named : presentation.name = Text.trim name) : Presentation.read name = .ok presentation := by
  rw [read, ← named]
  cases presentation <;> rfl

theorem Presentation.read_other {name : String}
    (other : ¬ ∃ presentation : Presentation, presentation.name = Text.trim name) :
    Presentation.read name = .error (.invalidValue .videoPresentation name .unknownPresentation) := by
  have unknown : ofName? (Text.trim name) = none := by
    refine List.find?_eq_none.2 fun presentation _ same => other ⟨presentation, ?_⟩
    exact eq_of_beq same
  rw [read, unknown]

end ArticleRules
