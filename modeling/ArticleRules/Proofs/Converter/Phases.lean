import ArticleRules.Proofs.RuleSet.Configuration
import ArticleRules.Proofs.Walk.Limit

/-
This file keeps two phases apart: rules are built first, and content is converted then. Whatever fails in the
first phase is a matter of configuration, and nothing that fails in the second phase is.
-/

namespace ArticleRules

/-- Errors of content are all but those of configuration. -/
def Error.isContent (error : Error) : Bool :=
  !error.isConfiguration

/-- Only the content that is converted is to blame if the computation fails. -/
abbrev BlamesContent (outcome : Except Error α) : Prop :=
  FailsOnlyWith Error.isContent outcome

/-- A node is part of the content. -/
theorem Error.isContent_of_isFlaw {error : Error} (flaw : error.isFlaw = true) :
    error.isContent = true := by
  cases error with
  | missingProperty | invalidValue => rfl
  | invalidSelector | unknownGetter | unknownRule | misconfigured => cases flaw
  | contextMismatch | depthExceeded | invalidRuleSet => cases flaw

theorem BlamesNode.blamesContent {outcome : Except Error α} (blames : BlamesNode outcome) :
    BlamesContent outcome :=
  blames.imp fun _ => Error.isContent_of_isFlaw

namespace Element

theorem asArticle_blames (element : Element) : BlamesContent element.asArticle := by
  cases element with
  | article => exact FailsOnlyWith.pure _
  | header | interactive | video | caption => exact FailsOnlyWith.throw rfl

theorem asHeader_blames (element : Element) : BlamesContent element.asHeader := by
  cases element with
  | header => exact FailsOnlyWith.pure _
  | article | interactive | video | caption => exact FailsOnlyWith.throw rfl

theorem attachCaption_blames (element : Element) (attached : Caption) :
    BlamesContent (element.attachCaption attached) := by
  cases element with
  | interactive | video => exact FailsOnlyWith.pure _
  | article | header | caption => exact FailsOnlyWith.throw rfl

end Element

namespace Article

theorem withChild_blames (article : Article) (child : Element) :
    BlamesContent (article.withChild child) := by
  cases child with
  | interactive | video => exact FailsOnlyWith.pure _
  | article | header | caption => exact FailsOnlyWith.throw rfl

theorem planChild_blames (article : Article) (child : Element) (captioned : Bool) :
    BlamesContent (article.planChild child captioned) := by
  cases captioned with
  | true => exact FailsOnlyWith.pure _
  | false => exact (article.withChild_blames child).bind fun _ => .pure _

end Article

/-- A rule of the library blames the content, also for a context that it was not dispatched for. -/
theorem Rule.plan_blames {rule : Rule} (builtIn : rule.isBuiltIn = true) (context : Element)
    (place : Place) : BlamesContent (rule.plan context place) := by
  cases rule with
  | metadata pattern =>
      refine context.asArticle_blames.bind fun article => ?_
      exact (pattern.describeArticle_blames article place).blamesContent.bind fun _ => .pure _
  | header pattern => exact context.asArticle_blames.bind fun _ => .pure _
  | headerTitle pattern =>
      refine context.asHeader_blames.bind fun header => ?_
      exact (header.setTitle_blames _).blamesContent.bind fun _ => .pure _
  | headerKicker pattern =>
      refine context.asHeader_blames.bind fun header => ?_
      exact (header.setKicker_blames _).blamesContent.bind fun _ => .pure _
  | interactive pattern =>
      refine context.asArticle_blames.bind fun article => ?_
      refine (pattern.buildInteractive_blames place).blamesContent.bind fun built => ?_
      exact article.planChild_blames _ _
  | video pattern =>
      refine context.asArticle_blames.bind fun article => ?_
      refine (pattern.buildVideo_blames place).blamesContent.bind fun built => ?_
      exact article.planChild_blames _ _
  | caption pattern kind =>
      refine (pattern.buildCaption_blames place).blamesContent.bind fun attached => ?_
      exact (context.attachCaption_blames attached).bind fun _ => .pure _
  | passThrough pattern kind => exact FailsOnlyWith.pure _
  | ignore pattern kind => exact FailsOnlyWith.pure _
  | host rule => cases builtIn

/-- So does a rule that goes on with what comes back from below a node, whatever that is. -/
theorem Descends.finish_blames {place : Place} {rule : Rule} {context inner : Element}
    {finish : Element → Except Error Element} (descends : Descends place rule context inner finish)
    (completed : Element) : BlamesContent (finish completed) := by
  cases descends with
  | header => exact completed.asHeader_blames.bind fun _ => .pure _
  | interactive | video => exact Article.withChild_blames _ completed
  | passThrough => exact FailsOnlyWith.pure _

namespace Walk

/-- Only the content is to blame if the walk fails, from whatever state it starts. -/
def Blames (walk : Walk α) : Prop :=
  ∀ state, BlamesContent (walk.outcome state).1

theorem Blames.pure (value : α) : Blames (Pure.pure value) := by
  intro state
  exact FailsOnlyWith.pure value

theorem Blames.ofExcept {result : Except Error α} (blames : BlamesContent result) :
    Blames (Walk.ofExcept result) := by
  intro state
  cases result with
  | error error => exact FailsOnlyWith.throw (blames error rfl)
  | ok value => exact FailsOnlyWith.pure value

theorem Blames.bind {walk : Walk α} {next : α → Walk β} (first : walk.Blames)
    (rest : ∀ value, (next value).Blames) : Blames (walk >>= next) := by
  intro state
  have firstBlames := first state
  rw [outcome_bind]
  rcases ran : walk.outcome state with ⟨error | value, after⟩
  · rw [ran] at firstBlames
    exact FailsOnlyWith.throw (firstBlames error rfl)
  · exact rest value after

end Walk

/-- A walk below a node over rules of the library fails for a flaw of the content, its depth, or a caption
that is asked for where none can be. -/
theorem walkBelow_blames {rules : List Rule} (builtIn : Rule.AllBuiltIn rules) (limit : Nat)
    (context : Element) (place : Place) : (walkBelow rules limit context place).Blames := by
  intro state
  obtain ⟨warnings, result, walks⟩ := Walks.exists rules limit state.depth place context
  have ran := walkBelow_follows rules limit state.depth walks state.warnings
  rw [ran]
  rintro error rfl
  obtain flaw | rfl | ⟨_, _, _, _, _, rfl⟩ := walks.error_cases builtIn
  · exact Error.isContent_of_isFlaw flaw
  · rfl
  · rfl

/-- A rule of the library that is applied by itself blames the content if the walk below the node does. -/
theorem Rule.apply_blames {rule : Rule} {walker : Element → Place → Walk Element}
    (builtIn : rule.isBuiltIn = true) (below : ∀ inner place, (walker inner place).Blames)
    (context : Element) (place : Place) : (rule.apply walker context place).Blames := by
  have planBlames := plan_blames builtIn context place
  rw [apply_eq_plan]
  cases planned : rule.plan context place with
  | error error =>
      rw [planned] at planBlames
      intro state
      exact FailsOnlyWith.throw (planBlames error rfl)
  | ok plan =>
      cases plan with
      | done element => exact .pure element
      | below inner finish =>
          have descends := Rule.acts_of_plan planned
          refine (below inner place).bind fun completed => ?_
          exact .ofExcept (Descends.finish_blames descends completed)
      | hosted routine =>
          obtain ⟨host, rfl, _⟩ := Rule.acts_of_plan planned
          cases builtIn

namespace Converter

variable {converter : Converter}

theorem transform_blames (builtIn : Rule.AllBuiltIn converter.rules) (context : Element)
    (place : Place) : BlamesContent (converter.transform context place).1 :=
  walkBelow_blames builtIn converter.maxDepth context place converter.state

theorem convert_blames (builtIn : Rule.AllBuiltIn converter.rules) (context : Element)
    (place : Place) : BlamesContent (converter.convert context place).1 := by
  have blames := transform_blames builtIn context place
  unfold convert
  rcases transforms : converter.transform context place with ⟨error | element, after⟩
  · rw [transforms] at blames
    exact FailsOnlyWith.throw (blames error rfl)
  · exact FailsOnlyWith.pure _

theorem applyRule_blames (builtIn : Rule.AllBuiltIn converter.rules) {rule : Rule}
    (ruleBuiltIn : rule.isBuiltIn = true) (context : Element) (place : Place) :
    BlamesContent (converter.applyRule rule context place).1 := by
  have below : ∀ inner place, (converter.walk inner place).Blames :=
    walkBelow_blames builtIn converter.maxDepth
  exact Rule.apply_blames ruleBuiltIn below context place converter.state

end Converter

namespace Error

/-- The errors with which rules fail to be built, from their selectors up to a set of rules that is read and
registered with the catalog of the library and any getters. -/
inductive OfBuilding : Error → Prop where
  | selector (failed : Selector.read text = .error error) : OfBuilding error
  | pattern (failed : Pattern.read text = .error error) : OfBuilding error
  | property (failed : Property.build table name getterName selector attributeName = .error error) :
      OfBuilding error
  | rule {make : Pattern → Rule} (failed : make <$> Pattern.read text = .error error) : OfBuilding error
  | metadata (failed : Rule.metadata? pattern = .error error) : OfBuilding error
  | interactive (failed : Rule.interactive? pattern = .error error) : OfBuilding error
  | video (failed : Rule.video? pattern = .error error) : OfBuilding error
  | entry {entry : RuleEntry} (failed : entry.pattern table names = .error error) : OfBuilding error
  | factory {factory : RuleFactory} (member : factory ∈ RuleFactory.builtIn)
      (failed : factory entry table = .error error) : OfBuilding error
  | catalog (failed : RuleCatalog.builtIn.build entry table = .error error) : OfBuilding error
  | register {converter : Converter} (failed : converter.register rules .builtIn table = .error error) :
      OfBuilding error
  | json (failed : RuleSet.ofJson text = .error error) : OfBuilding error

/-- The errors with which content fails to be converted over rules of the library. -/
inductive OfConverting : Error → Prop where
  | transform {converter : Converter} (builtIn : Rule.AllBuiltIn converter.rules)
      (failed : (converter.transform context place).1 = .error error) : OfConverting error
  | convert {converter : Converter} (builtIn : Rule.AllBuiltIn converter.rules)
      (failed : (converter.convert context place).1 = .error error) : OfConverting error
  | transformDocument {converter : Converter} (builtIn : Rule.AllBuiltIn converter.rules)
      (failed : (converter.transformDocument context tree).1 = .error error) : OfConverting error
  | convertDocument {converter : Converter} (builtIn : Rule.AllBuiltIn converter.rules)
      (failed : (converter.convertDocument context tree).1 = .error error) : OfConverting error
  | apply {converter : Converter} {rule : Rule} (builtIn : Rule.AllBuiltIn converter.rules)
      (ruleBuiltIn : rule.isBuiltIn = true)
      (failed : (converter.applyRule rule context place).1 = .error error) : OfConverting error

variable {error : Error}

theorem OfBuilding.isConfiguration (arises : error.OfBuilding) : error.isConfiguration = true := by
  cases arises with
  | selector failed => exact Selector.read_blames _ error failed
  | pattern failed => exact Pattern.read_blames _ error failed
  | property failed => exact Property.build_blames _ _ _ _ _ error failed
  | rule failed => exact (Pattern.read_blames _).map _ error failed
  | metadata failed => exact Rule.metadata?_blames _ error failed
  | interactive failed => exact Rule.interactive?_blames _ error failed
  | video failed => exact Rule.video?_blames _ error failed
  | entry failed => exact RuleEntry.pattern_blames _ _ _ error failed
  | factory member failed => exact RuleFactory.builtIn_blames member _ _ error failed
  | catalog failed => exact RuleCatalog.build_blames _ _ error failed
  | register failed => exact Converter.register_blames _ _ _ error failed
  | json failed => exact RuleSet.ofJson_blames _ error failed

theorem OfConverting.isContent (arises : error.OfConverting) : error.isContent = true := by
  cases arises with
  | transform builtIn failed | transformDocument builtIn failed =>
      exact Converter.transform_blames builtIn _ _ error failed
  | convert builtIn failed | convertDocument builtIn failed =>
      exact Converter.convert_blames builtIn _ _ error failed
  | apply builtIn ruleBuiltIn failed =>
      exact Converter.applyRule_blames builtIn ruleBuiltIn _ _ error failed

/-- Errors of configuration and errors of content belong to separate phases. Every error with which rules fail
to be built is one of configuration. No error with which content fails to be converted over rules of the
library is, so none of them can arise in both phases. -/
theorem phases_apart :
    (∀ error : Error, error.OfBuilding → error.isConfiguration = true) ∧
    (∀ error : Error, error.OfConverting → error.isConfiguration = false) ∧
    ∀ error : Error, ¬ (error.OfBuilding ∧ error.OfConverting) := by
  have building : ∀ error : Error, error.OfBuilding → error.isConfiguration = true :=
    fun _ arises => arises.isConfiguration
  have converting : ∀ error : Error, error.OfConverting → error.isConfiguration = false := by
    intro error arises
    simpa [isContent] using arises.isContent
  refine ⟨building, converting, ?_⟩
  rintro error ⟨built, converted⟩
  have both := (building error built).symm.trans (converting error converted)
  cases both

/-- An entry without a selector cannot be built, and a walk that is nested too deep cannot be finished. -/
theorem phases_apart_heading :
    RuleFactory.header { ruleClass := RuleName.header } .builtIn =
        .error (.misconfigured (.noSelector RuleName.header)) ∧
      (misconfigured (.noSelector RuleName.header)).isConfiguration = true ∧
      ((Converter.heading.limitedTo 1).transform (.article {}) (.root .textAndBoxes)).1 =
        .error (.depthExceeded 1) ∧
      (depthExceeded 1).isConfiguration = false := by
  have unbuilt : RuleFactory.header { ruleClass := RuleName.header } .builtIn =
      .error (.misconfigured (.noSelector RuleName.header)) := rfl
  have member : RuleFactory.header ∈ RuleFactory.builtIn := by simp [RuleFactory.builtIn]
  have deep : ((Converter.heading.limitedTo 1).transform (.article {}) (.root .textAndBoxes)).1 =
      .error (.depthExceeded 1) := rfl
  have builtIn : Rule.AllBuiltIn (Converter.heading.limitedTo 1).rules := Converter.heading_builtIn
  exact ⟨unbuilt, phases_apart.1 _ (.factory member unbuilt), deep,
    phases_apart.2.1 _ (.transform builtIn deep)⟩

end Error

end ArticleRules
