import ArticleRules.Proofs.Converter.Application
import ArticleRules.Proofs.Property.Definitions

/-
This file shows that rules look at the values of their properties and not at how the properties came to be
defined. Patterns from different definitions are interchangeable if every name was defined last alike.
-/

namespace ArticleRules

namespace Pattern

section congr

variable {pattern other : Pattern} {place : Place}

-- What a pattern makes of a node depends on the values that it reads there.
variable (same : ∀ name, other.value? name place = pattern.value? name place)

include same

theorem isTruthy_congr (name : String) : other.isTruthy name place = pattern.isTruthy name place := by
  rw [isTruthy, isTruthy, truthy?_congr same]

theorem readsFalse_congr (name : String) :
    other.readsFalse name place = pattern.readsFalse name place := by
  rw [readsFalse, readsFalse, same]

theorem setText_congr (name : String) (element : α) (set : α → String → Except Error α) :
    other.setText name place element set = pattern.setText name place element set := by
  rw [setText, setText, truthy?_congr same]

theorem describeArticle_congr (article : Article) :
    other.describeArticle article place = pattern.describeArticle article place := by
  simp only [describeArticle, require_congr same, setText_congr same, readsFalse_congr same]

theorem buildVideo_congr : other.buildVideo place = pattern.buildVideo place := by
  simp only [buildVideo, require_congr same, setText_congr same, isTruthy_congr same,
    readsFalse_congr same]

theorem buildCaption_congr : other.buildCaption place = pattern.buildCaption place := by
  rw [buildCaption, buildCaption, truthy?_congr same]
  simp only [setText_congr same]

end congr

end Pattern

namespace Rule

/-- The rule with this pattern in place of its own. Rules of a host have none. -/
def withPattern (rule : Rule) (pattern : Pattern) : Rule :=
  match rule with
  | metadata _ => metadata pattern
  | header _ => header pattern
  | headerTitle _ => headerTitle pattern
  | headerKicker _ => headerKicker pattern
  | interactive _ => interactive pattern
  | video _ => video pattern
  | caption _ context => caption pattern context
  | passThrough _ context => passThrough pattern context
  | ignore _ context => ignore pattern context
  | host rule => host rule

/-- A rule makes the same plan with a pattern that reads the same values. -/
theorem plan_withPattern (rule : Rule) {pattern other : Pattern} {place : Place}
    (same : ∀ name, other.value? name place = pattern.value? name place) (context : Element) :
    (rule.withPattern other).plan context place = (rule.withPattern pattern).plan context place := by
  cases rule with
  | metadata own => simp only [withPattern, plan, Pattern.describeArticle_congr same]
  | interactive own =>
      obtain ⟨builds, captioned⟩ := Pattern.buildInteractive_congr fun name _ => same name
      simp only [withPattern, plan, builds, captioned]
  | video own =>
      simp only [withPattern, plan, Pattern.buildVideo_congr same, Pattern.isTruthy_congr same]
  | caption own kind => simp only [withPattern, plan, Pattern.buildCaption_congr same]
  | header own | headerTitle own | headerKicker own => rfl
  | passThrough own kind | ignore own kind => rfl
  | host rule => rfl

/-- A rule is applied alike with a pattern that reads the same values. -/
theorem apply_withPattern (rule : Rule) {pattern other : Pattern} {place : Place}
    (same : ∀ name, other.value? name place = pattern.value? name place)
    (walker : Element → Place → Walk Element) (context : Element) :
    (rule.withPattern other).apply walker context place =
      (rule.withPattern pattern).apply walker context place := by
  rw [apply_eq_plan, apply_eq_plan, rule.plan_withPattern same]

/-- Patterns that are alike are refused alike, or both make a rule. -/
theorem checked_withPattern {pattern other : Pattern} (alike : pattern.Alike other) :
    ∀ make ∈ [metadata?, interactive?, video?],
      make other = (make pattern).map (·.withPattern other) := by
  intro make member
  simp only [List.mem_cons, List.not_mem_nil, or_false] at member
  obtain rfl | rfl | rfl := member
  · rw [metadata?, metadata?, alike.expectAny]
    cases pattern.expectAny RuleName.metadata [PropertyName.canonical] <;> rfl
  · rw [interactive?, interactive?, alike.expectAny]
    cases pattern.expectAny RuleName.interactive [PropertyName.iframe, PropertyName.url] <;> rfl
  · rw [video?, video?, alike.expectAny]
    cases pattern.expectAny RuleName.video [PropertyName.videoUrl] <;> rfl

end Rule

namespace Converter

/-- The properties of a pattern are a map in which the last definition of a name counts. After any definitions
there is one property for each name, the last one, in the order of the last definitions, and this property is
what is evaluated for the name. So two sequences of definitions that agree on the last one of each name make
patterns that cannot be told apart. With either pattern a rule of the library can be built, or is refused with
the same error, and it has the same result and leaves the same converter wherever it is applied. -/
theorem definitions_lastWins (selector : Selector) (definitions : List Property) :
    (Pattern.ofDefinitions selector definitions).KeepsLast definitions ∧
    (Pattern.ofDefinitions selector definitions).ReadsLast definitions ∧
    ∀ others, (∀ name, Property.last? others name = Property.last? definitions name) →
      (Pattern.ofDefinitions selector definitions).Alike (Pattern.ofDefinitions selector others) ∧
      (∀ make ∈ [Rule.metadata?, Rule.interactive?, Rule.video?],
        make (Pattern.ofDefinitions selector others) =
          (make (Pattern.ofDefinitions selector definitions)).map
            (·.withPattern (Pattern.ofDefinitions selector others))) ∧
      ∀ (converter : Converter) (rule : Rule) (context : Element) (place : Place),
        converter.applyRule (rule.withPattern (Pattern.ofDefinitions selector others)) context place =
          converter.applyRule (rule.withPattern (Pattern.ofDefinitions selector definitions)) context
            place := by
  have kept := Pattern.KeepsLast.ofDefinitions selector definitions
  refine ⟨kept, kept.readsLast, fun others same => ?_⟩
  have alike := Pattern.alike_ofDefinitions selector same
  refine ⟨alike, Rule.checked_withPattern alike, fun converter rule context place => ?_⟩
  rw [applyRule, applyRule, rule.apply_withPattern fun name => alike.value? name place]

end Converter

namespace Property

/-- The address is defined twice, with a height in between. -/
def readdressed : List Property :=
  [.ofAttribute PropertyName.url "type", .ofAttribute PropertyName.height "height",
    .ofText PropertyName.url]

/-- The height is defined twice, with an address in between. -/
def resized : List Property :=
  [.ofAttribute PropertyName.height "format", .ofText PropertyName.url,
    .ofAttribute PropertyName.height "height"]

end Property

namespace Converter

/-- The definitions agree on the last address and the last height, but not on their order. A rule builds the
same interactive element with either pattern. -/
theorem definitions_lastWins_figure :
    (∀ name, Property.last? Property.resized name = Property.last? Property.readdressed name) ∧
      (Pattern.ofDefinitions .itself Property.readdressed).properties.map Property.name =
        [PropertyName.height, PropertyName.url] ∧
      (Pattern.ofDefinitions .itself Property.resized).properties.map Property.name =
        [PropertyName.url, PropertyName.height] ∧
      (captioning.applyRule (.interactive (.ofDefinitions .itself Property.resized)) (.article {})
        (.root .figure)).1 =
        .ok (.article { children := [.interactive
          { source := some "Launch", width := some .noMargin, height := some 42 }] }) ∧
      captioning.applyRule (.interactive (.ofDefinitions .itself Property.resized)) (.article {})
          (.root .figure) =
        captioning.applyRule (.interactive (.ofDefinitions .itself Property.readdressed)) (.article {})
          (.root .figure) := by
  have same (name : String) :
      Property.last? Property.resized name = Property.last? Property.readdressed name := by
    by_cases url : PropertyName.url = name
    · subst url
      rfl
    · by_cases height : PropertyName.height = name
      · subst height
        rfl
      · simp [Property.last?, Property.resized, Property.readdressed, Property.ofAttribute,
          Property.ofText, url, height]
  obtain ⟨_, _, alike⟩ := definitions_lastWins .itself Property.readdressed
  obtain ⟨_, _, applies⟩ := alike Property.resized same
  exact ⟨same, rfl, rfl, rfl, applies captioning (.interactive ⟨.itself, []⟩) _ _⟩

end Converter

end ArticleRules
