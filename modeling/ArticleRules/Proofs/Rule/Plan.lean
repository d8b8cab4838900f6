import ArticleRules.Proofs.Element.Flaw
import ArticleRules.Proofs.Walk.Outcome

/-
This file splits what a rule does into a plan, which it makes from the context and the node alone, and
the walks that the plan may ask for.
-/

namespace ArticleRules

/-- A rule is done with an element, or a walk below the node completes an element that it then finishes. The
rule of a host leaves it to a routine. -/
inductive Plan where
  | done (element : Element)
  | below (inner : Element) (finish : Element → Except Error Element)
  | hosted (routine : Routine)

/-- A plan for a node is carried out with the given walk. -/
def Plan.run (walker : Element → Place → Walk Element) (place : Place) : Plan → Walk Element
  | done element => return element
  | below inner finish => do Walk.ofExcept (finish (← walker inner place))
  | hosted routine => routine.run walker

/-- The article with a child in its body. -/
def Article.withChild (article : Article) (child : Element) : Except Error Element := do
  return .article (← article.addChild child)

/-- A child with a caption to come is completed before it goes into the body. -/
def Article.planChild (article : Article) (child : Element) (captioned : Bool) : Except Error Plan :=
  if captioned then return .below child article.withChild
  else return .done (← article.withChild child)

namespace Rule

/-- What a rule makes of a context and a node, up to the walks that it starts. -/
def plan (rule : Rule) (context : Element) (place : Place) : Except Error Plan :=
  match rule with
  | metadata pattern => do
    let article ← context.asArticle
    return .done (.article (← pattern.describeArticle article place))
  | header _ => do
    let article ← context.asArticle
    return .below (.header (article.header.getD {})) fun inner => do
      return .article (article.setHeader (← inner.asHeader))
  | headerTitle _ => do
    let header ← context.asHeader
    return .done (.header (← header.setTitle place.textContent))
  | headerKicker _ => do
    let header ← context.asHeader
    return .done (.header (← header.setKicker place.textContent))
  | interactive pattern => do
    let article ← context.asArticle
    let built ← pattern.buildInteractive place
    article.planChild (.interactive built) (pattern.isTruthy PropertyName.interactiveCaption place)
  | video pattern => do
    let article ← context.asArticle
    let built ← pattern.buildVideo place
    article.planChild (.video built) (pattern.isTruthy PropertyName.videoCaption place)
  | caption pattern _ => do
    return .done (← context.attachCaption (← pattern.buildCaption place))
  | passThrough _ _ => return .below context .ok
  | ignore _ _ => return .done context
  | host rule => return .hosted (rule.build context place)

-- A rule in the kind of context that it is for starts from the content of the context.
section plan

variable (pattern : Pattern) (article : Article) (context : Header) (place : Place)

theorem plan_metadata :
    (metadata pattern).plan (.article article) place =
      pattern.describeArticle article place >>= fun next => pure (.done (.article next)) := by
  simp only [plan, Element.asArticle, Except.ok_bind]

theorem plan_header :
    (header pattern).plan (.article article) place =
      .ok (.below (.header (article.header.getD {})) fun inner => do
        return .article (article.setHeader (← inner.asHeader))) := rfl

theorem plan_headerTitle :
    (headerTitle pattern).plan (.header context) place =
      context.setTitle place.textContent >>= fun next => pure (.done (.header next)) := by
  simp only [plan, Element.asHeader, Except.ok_bind]

theorem plan_headerKicker :
    (headerKicker pattern).plan (.header context) place =
      context.setKicker place.textContent >>= fun next => pure (.done (.header next)) := by
  simp only [plan, Element.asHeader, Except.ok_bind]

theorem plan_interactive :
    (interactive pattern).plan (.article article) place =
      pattern.buildInteractive place >>= fun built =>
        article.planChild (.interactive built)
          (pattern.isTruthy PropertyName.interactiveCaption place) := by
  simp only [plan, Element.asArticle, Except.ok_bind]

theorem plan_video :
    (video pattern).plan (.article article) place =
      pattern.buildVideo place >>= fun built =>
        article.planChild (.video built) (pattern.isTruthy PropertyName.videoCaption place) := by
  simp only [plan, Element.asArticle, Except.ok_bind]

end plan

end Rule

namespace Walk

theorem ofExcept_ok (value : α) : ofExcept (.ok value) = pure value := rfl

theorem ofExcept_pure (value : α) : ofExcept (pure value) = pure value := rfl

theorem ofExcept_bind (result : Except Error α) (next : α → Except Error β) :
    ofExcept (result >>= next) = ofExcept result >>= fun value => ofExcept (next value) := by
  cases result <;> rfl

end Walk

/-- The walk of a planned child completes it and puts it into the body. -/
theorem Article.planChild_run (article : Article) (child : Element) (captioned : Bool)
    (walker : Element → Place → Walk Element) (place : Place) :
    (Walk.ofExcept (article.planChild child captioned) >>= Plan.run walker place) = (do
      let child ← if captioned then walker child place else pure child
      return .article (← Walk.ofExcept (article.addChild child))) := by
  cases captioned <;>
    simp only [planChild, withChild, Plan.run, Walk.ofExcept_bind, Walk.ofExcept_pure, bind_assoc,
      pure_bind, if_true, if_false, Bool.false_eq_true]

/-- A rule makes a plan and carries it out. -/
theorem Rule.apply_eq_plan (rule : Rule) (walker : Element → Place → Walk Element) (context : Element)
    (place : Place) :
    rule.apply walker context place =
      Walk.ofExcept (rule.plan context place) >>= Plan.run walker place := by
  cases rule with
  | interactive pattern | video pattern =>
      simp only [apply, plan, Walk.ofExcept_bind, bind_assoc, Article.planChild_run]
  | passThrough pattern context =>
      simp only [apply, plan, Plan.run, Walk.ofExcept_pure, Walk.ofExcept_ok, pure_bind, bind_pure]
  | metadata pattern | header pattern | headerTitle pattern | headerKicker pattern
  | caption pattern context | ignore pattern context | host rule =>
      simp only [apply, plan, Plan.run, Walk.ofExcept_bind, Walk.ofExcept_pure, bind_assoc, pure_bind,
        bind_pure]

end ArticleRules
