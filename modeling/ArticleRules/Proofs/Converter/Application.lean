import ArticleRules.Proofs.Rule.Requirements
import ArticleRules.Proofs.Walk.Growth

/-
This file says what a rule does that is applied to a node on its own. A rule for a child of the body builds
it from the node, completes it in a walk below the node if a caption is to come, and then adds it.
-/

namespace ArticleRules

open Requirement

namespace Converter

variable {converter : Converter} {rule : Rule} {context : Element} {place : Place}

/-- A rule without a plan fails, and the converter stays as it is. -/
theorem applyRule_refused {error : Error} (plans : rule.plan context place = .error error) :
    converter.applyRule rule context place = (.error error, converter) := by
  rw [applyRule, Rule.apply_eq_plan, plans]
  rfl

/-- A rule that is done at once leaves the converter as it is. -/
theorem applyRule_done {next : Element} (plans : rule.plan context place = .ok (.done next)) :
    converter.applyRule rule context place = (.ok next, converter) := by
  rw [applyRule, Rule.apply_eq_plan, plans]
  rfl

/-- A rule that walks on below the node transforms the inner context there, and then finishes. -/
theorem applyRule_below {inner : Element} {finish : Element → Except Error Element}
    (plans : rule.plan context place = .ok (.below inner finish)) :
    converter.applyRule rule context place =
      ((converter.transform inner place).1 >>= finish, (converter.transform inner place).2) := by
  rw [applyRule, Rule.apply_eq_plan, plans, Walk.ofExcept_ok, pure_bind, Plan.run]
  obtain ⟨warnings, result, walks, transforms⟩ := converter.transform_walks inner place
  have ran := walkBelow_follows _ _ _ walks converter.warnings
  rw [transforms]
  apply run_eq_of_outcome
  cases result with
  | error error => exact Walk.outcome_bind_error ran _
  | ok completed => exact (Walk.outcome_bind_ok ran _).trans (Walk.outcome_ofExcept _ _)

end Converter

namespace Article

variable {article : Article} {child next : Element} {error : Error}

theorem withChild_eq_ok_iff : article.withChild child = .ok next ↔
    (child.kind = .interactive ∨ child.kind = .video) ∧
      next = .article { article with children := article.children ++ [child] } := by
  constructor
  · intro placed
    obtain ⟨grown, added, wrapped⟩ := Except.bind_eq_ok placed
    obtain ⟨inBody, rfl⟩ := addChild_eq_ok added
    cases wrapped
    exact ⟨inBody, rfl⟩
  · rintro ⟨inBody, rfl⟩
    cases child with
    | interactive | video => rfl
    | article | header | caption => rcases inBody with same | same <;> cases same

theorem withChild_eq_error_iff : article.withChild child = .error error ↔
    ¬ (child.kind = .interactive ∨ child.kind = .video) ∧
      error = .invalidValue .children child.kind.name .notInBody := by
  cases child with
  | interactive | video => simp [withChild, addChild, Element.kind, Except.ok_bind, pure, Except.pure]
  | article | header | caption => simp [withChild, addChild, Element.kind, eq_comm]

end Article

namespace Converter

/-- A child with a caption to come is completed by a walk below its node. -/
def complete (converter : Converter) (child : Element) (captioned : Bool) (place : Place) :
    Except Error Element × Converter :=
  if captioned then converter.transform child place else (.ok child, converter)

/-- A rule builds a child from a node, completes it, and adds it to the body of an article. It succeeds if the
node has all that is required and the child is still one for the body when it is complete, and it fails with
the first of these that does not hold. Only a walk makes a difference to the converter. -/
structure AddsChild (converter : Converter) (article : Article) (place : Place)
    (requirements : List Requirement) (built : Element) (captioned : Bool)
    (outcome : Except Error Element × Converter) : Prop where
  succeeds_iff : ∀ next, outcome.1 = .ok next ↔
    AllMet requirements ∧ ∃ child, (converter.complete built captioned place).1 = .ok child ∧
      (child.kind = .interactive ∨ child.kind = .video) ∧
      next = .article { article with children := article.children ++ [child] }
  fails_iff : ∀ error, outcome.1 = .error error ↔
    FirstUnmet requirements error ∨ AllMet requirements ∧
      ((converter.complete built captioned place).1 = .error error ∨
        ∃ child, (converter.complete built captioned place).1 = .ok child ∧
          ¬ (child.kind = .interactive ∨ child.kind = .video) ∧
          error = .invalidValue .children child.kind.name .notInBody)
  unchanged : ¬ (AllMet requirements ∧ captioned = true) → outcome.2 = converter
  walked : AllMet requirements → captioned = true → outcome.2 = (converter.transform built place).2

variable {converter : Converter} {rule : Rule} {article : Article} {place : Place}
  {requirements : List Requirement} {build : Except Error α} {make : α → Element} {value : α}
  {captioned : Bool}

theorem complete_plain (converter : Converter) (child : Element) (place : Place) :
    converter.complete child false place = (.ok child, converter) := rfl

theorem complete_captioned (converter : Converter) (child : Element) (place : Place) :
    converter.complete child true place = converter.transform child place := rfl

/-- A rule that has built a child completes it and adds it to the body. -/
theorem applyRule_built
    (plans : rule.plan (.article article) place =
      build >>= fun built => article.planChild (make built) captioned)
    (builds : build = .ok value) :
    converter.applyRule rule (.article article) place =
      ((converter.complete (make value) captioned place).1 >>= article.withChild,
        (converter.complete (make value) captioned place).2) := by
  rw [builds, Except.ok_bind] at plans
  cases captioned with
  | true => exact applyRule_below plans
  | false =>
      rw [complete_plain, Except.ok_bind]
      cases placed : article.withChild (make value) with
      | error error =>
          rw [Article.planChild, placed] at plans
          exact applyRule_refused plans
      | ok next =>
          rw [Article.planChild, placed] at plans
          exact applyRule_done plans

/-- A rule that checks one requirement after the other to build a child adds the child. -/
theorem applyRule_addsChild
    (plans : rule.plan (.article article) place =
      build >>= fun built => article.planChild (make built) captioned)
    (checks : Checks requirements build value) :
    converter.AddsChild article place requirements (make value) captioned
      (converter.applyRule rule (.article article) place) := by
  obtain met | ⟨first, unmet⟩ := allMet_or_exists_firstUnmet requirements
  · have noneUnmet : ∀ error, ¬ FirstUnmet requirements error := fun _ unmet => unmet.not_allMet met
    rw [applyRule_built plans (checks.passes met)]
    refine ⟨fun next => ?_, fun error => ?_, fun plain => ?_, fun _ captioned => ?_⟩
    · cases (converter.complete (make value) captioned place).1 with
      | error error => simp [Except.error_bind]
      | ok child => simp [Except.ok_bind, Article.withChild_eq_ok_iff, met]
    · cases (converter.complete (make value) captioned place).1 with
      | error error => simp [Except.error_bind, met, noneUnmet]
      | ok child => simp [Except.ok_bind, Article.withChild_eq_error_iff, met, noneUnmet]
    · rw [Bool.eq_false_iff.2 fun captioned => plain ⟨met, captioned⟩]
      rfl
    · rw [captioned]
      rfl
  · have notMet := unmet.not_allMet
    have failed := checks.fails first unmet
    rw [failed, Except.error_bind] at plans
    rw [applyRule_refused plans]
    refine ⟨fun next => ?_, fun error => ?_, fun _ => rfl, fun met => absurd met notMet⟩
    · simp [notMet]
    · rw [← checks.eq_error_iff, failed]
      simp [notMet]

/-- A walk over rules of the library can only give a child that is completed a caption. -/
theorem complete_edits (builtIn : Rule.AllBuiltIn converter.rules) {child completed : Element}
    (completes : (converter.complete child captioned place).1 = .ok completed) :
    ∃ edit : Edit, completed = edit.apply child ∧ (captioned = false → edit = {}) := by
  cases captioned with
  | false =>
      cases completes
      exact ⟨{}, (Edit.apply_blank child).symm, fun _ => rfl⟩
  | true =>
      rw [complete_captioned] at completes
      obtain ⟨warnings, result, walks, transforms⟩ := converter.transform_walks child place
      rw [transforms] at completes
      cases completes
      cases walks with
      | entered room visits =>
          obtain ⟨edit, edited⟩ := visits.exists_edit builtIn
          exact ⟨edit, edited, nofun⟩

/-- Over rules of the library, what comes into the body is what was built, up to a caption. -/
theorem AddsChild.exists_edit {built : Element} {outcome : Except Error Element × Converter}
    (adds : converter.AddsChild article place requirements built captioned outcome)
    (builtIn : Rule.AllBuiltIn converter.rules) {next : Element} (succeeded : outcome.1 = .ok next) :
    ∃ edit : Edit, (captioned = false → edit = {}) ∧
      next = .article { article with children := article.children ++ [edit.apply built] } := by
  obtain ⟨_, child, completes, _, rfl⟩ := (adds.succeeds_iff next).1 succeeded
  obtain ⟨edit, rfl, plain⟩ := complete_edits builtIn completes
  exact ⟨edit, plain, rfl⟩

/-- Whether a rule for interactive elements succeeds, with which article or which error, and what it leaves of
the converter. With all that is required, the node becomes the last child of the article. Over rules of the
library a walk for its caption sets no other field. What the pattern says about margins makes no
difference. -/
theorem applyRule_interactive (converter : Converter) (pattern : Pattern) (article : Article)
    (place : Place) :
    converter.AddsChild article place (pattern.interactiveRequirements place)
      (.interactive (pattern.interactiveAt place))
      (pattern.isTruthy PropertyName.interactiveCaption place)
      (converter.applyRule (.interactive pattern) (.article article) place) ∧
    (Rule.AllBuiltIn converter.rules → ∀ next,
      (converter.applyRule (.interactive pattern) (.article article) place).1 = .ok next →
        ∃ caption, (pattern.isTruthy PropertyName.interactiveCaption place = false → caption = none) ∧
          next = .article { article with
            children := article.children ++
              [.interactive { pattern.interactiveAt place with caption }] }) ∧
    ∀ other : Pattern,
      (∀ name, name ≠ PropertyName.noMargin →
        other.value? name place = pattern.value? name place) →
      converter.applyRule (.interactive other) (.article article) place =
        converter.applyRule (.interactive pattern) (.article article) place := by
  have adds : converter.AddsChild article place _ _ _ _ := applyRule_addsChild
    (Rule.plan_interactive pattern article place) (pattern.buildInteractive_checks place)
  refine ⟨adds, fun builtIn next succeeded => ?_, fun other same => ?_⟩
  · obtain ⟨edit, plain, rfl⟩ := adds.exists_edit builtIn succeeded
    refine ⟨edit.caption.or none, fun uncaptioned => ?_, rfl⟩
    rw [plain uncaptioned]
    rfl
  · obtain ⟨builds, captioned⟩ := Pattern.buildInteractive_congr same
    rw [applyRule, applyRule, Rule.apply_eq_plan, Rule.apply_eq_plan, Rule.plan_interactive,
      Rule.plan_interactive, builds, captioned]

/-- Whether a rule for videos succeeds, with which article or which error, and what it leaves of the converter.
With all that is required, the node becomes the last child of the article. Over rules of the library a walk
for its caption sets no other field. Any value that reads false keeps the video from playing by itself. -/
theorem applyRule_video (converter : Converter) (pattern : Pattern) (article : Article) (place : Place) :
    converter.AddsChild article place (pattern.videoRequirements place) (.video (pattern.videoAt place))
      (pattern.isTruthy PropertyName.videoCaption place)
      (converter.applyRule (.video pattern) (.article article) place) ∧
    (Rule.AllBuiltIn converter.rules → ∀ next,
      (converter.applyRule (.video pattern) (.article article) place).1 = .ok next →
        ∃ caption, (pattern.isTruthy PropertyName.videoCaption place = false → caption = none) ∧
          next = .article { article with
            children := article.children ++ [.video { pattern.videoAt place with caption }] }) ∧
    ((pattern.videoAt place).controls = true ↔
      (pattern.truthy? PropertyName.controls place).isSome) ∧
    ((pattern.videoAt place).autoplay = false ↔
      ∃ value, pattern.value? PropertyName.autoplay place = some value ∧
        Text.trim value.toText = "false") := by
  have adds : converter.AddsChild article place _ _ _ _ := applyRule_addsChild
    (Rule.plan_video pattern article place) (pattern.buildVideo_checks place)
  refine ⟨adds, fun builtIn next succeeded => ?_, Iff.rfl, ?_⟩
  · obtain ⟨edit, plain, rfl⟩ := adds.exists_edit builtIn succeeded
    refine ⟨edit.caption.or none, fun uncaptioned => ?_, rfl⟩
    rw [plain uncaptioned]
    rfl
  · simp [Pattern.videoAt, Pattern.readsFalse, Option.any_eq_true]

end Converter

/-- A figure has some attributes and holds its caption. -/
def Node.figure : Node :=
  .element ⟨"", "figure", [⟨none, "", "height", " +0042 "⟩, ⟨none, "", "type", "video/mp4"⟩,
    ⟨none, "", "autoplay", " false "⟩, ⟨none, "", "format", "film"⟩]⟩
    [.element ⟨"", "figcaption", []⟩ [.text " Launch "]]

namespace Property

/-- A property that is read from an attribute of the node. -/
def ofAttribute (name attributeName : String) : Property :=
  ⟨name, ⟨"attribute", Extraction.attributeValue, true⟩, .itself, some attributeName⟩

/-- A property that is the text in the node. -/
def ofText (name : String) : Property :=
  ⟨name, ⟨"text", Extraction.text, false⟩, .itself, none⟩

end Property

namespace Pattern

/-- The text of a figure is its markup, and there is a caption in it. -/
def chart : Pattern :=
  ⟨.itself, [.ofText PropertyName.iframe, .ofAttribute PropertyName.height "height",
    .ofText PropertyName.interactiveCaption]⟩

/-- The text of a figure is its address, and its media type is in an attribute. -/
def film (mediaType : String) : Pattern :=
  ⟨.itself, [.ofText PropertyName.videoUrl, .ofAttribute PropertyName.videoType mediaType,
    .ofAttribute PropertyName.autoplay "autoplay", .ofText PropertyName.videoCaption]⟩

end Pattern

namespace Converter

/-- Everything in an interactive element or a video is its caption. -/
def captioning : Converter :=
  { rules := [.caption ⟨.itself, []⟩ .interactive, .caption ⟨.itself, []⟩ .video] }

theorem applyRule_interactive_figure :
    Rule.AllBuiltIn captioning.rules ∧
      AllMet (Pattern.chart.interactiveRequirements (.root .figure)) ∧
      (captioning.applyRule (.interactive .chart) (.article {}) (.root .figure)).1 =
        .ok (.article { children := [.interactive
          { html := some "Launch", width := some .noMargin, height := some 42,
            caption := some { title := some "Launch" } }] }) ∧
      ∃ caption, (captioning.applyRule (.interactive .chart) (.article {}) (.root .figure)).1 =
        .ok (.article { children := [.interactive
          { Pattern.chart.interactiveAt (.root .figure) with caption }] }) := by
  have builtIn : Rule.AllBuiltIn captioning.rules := by decide
  have succeeded : (captioning.applyRule (.interactive .chart) (.article {}) (.root .figure)).1 =
      .ok (.article { children := [.interactive
        { html := some "Launch", width := some .noMargin, height := some 42,
          caption := some { title := some "Launch" } }] }) := rfl
  obtain ⟨adds, builds, _⟩ := applyRule_interactive captioning .chart {} (.root .figure)
  obtain ⟨caption, _, same⟩ := builds builtIn _ succeeded
  refine ⟨builtIn, ((adds.succeeds_iff _).1 succeeded).1, succeeded, caption, ?_⟩
  exact succeeded.trans (congrArg Except.ok same)

/-- The same figure is a video with one attribute as its media type, and none with another. -/
theorem applyRule_video_figure :
    Rule.AllBuiltIn captioning.rules ∧
      (captioning.applyRule (.video (.film "type")) (.article {}) (.root .figure)).1 =
        .ok (.article { children := [.video
          { url := some "Launch", mediaType := some "video/mp4", autoplay := false,
            caption := some { title := some "Launch" } }] }) ∧
      (∃ caption, (captioning.applyRule (.video (.film "type")) (.article {}) (.root .figure)).1 =
        .ok (.article { children := [.video
          { (Pattern.film "type").videoAt (.root .figure) with caption }] })) ∧
      FirstUnmet ((Pattern.film "format").videoRequirements (.root .figure))
        (.invalidValue .videoType "film" .notMediaType) := by
  have builtIn : Rule.AllBuiltIn captioning.rules := by decide
  have succeeded : (captioning.applyRule (.video (.film "type")) (.article {}) (.root .figure)).1 =
      .ok (.article { children := [.video
        { url := some "Launch", mediaType := some "video/mp4", autoplay := false,
          caption := some { title := some "Launch" } }] }) := rfl
  obtain ⟨_, builds, _⟩ := applyRule_video captioning (.film "type") {} (.root .figure)
  obtain ⟨caption, _, same⟩ := builds builtIn _ succeeded
  refine ⟨builtIn, succeeded, ⟨caption, succeeded.trans (congrArg Except.ok same)⟩, ?_⟩
  have failed : (captioning.applyRule (.video (.film "format")) (.article {}) (.root .figure)).1 =
      .error (.invalidValue .videoType "film" .notMediaType) := rfl
  have fails := (applyRule_video captioning (.film "format") {} (.root .figure)).1.fails_iff
  obtain unmet | ⟨_, errors | ⟨child, _, _, refusal⟩⟩ := (fails _).1 failed
  · exact unmet
  · cases errors
  · cases refusal

end Converter

end ArticleRules
