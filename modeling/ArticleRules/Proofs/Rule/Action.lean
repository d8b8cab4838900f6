import ArticleRules.Proofs.Element.Flaw
import ArticleRules.Proofs.Rule.Dispatch

/-
This file lists the ways in which a rule can act on a context and a node. Every plan that a rule makes is
one of them.
-/

namespace ArticleRules

/-- A rule turns one context into the next at a node without a walk below the node. -/
inductive Changes (place : Place) : Rule → Element → Element → Prop where
  | metadata {article next : Article} (described : pattern.describeArticle article place = .ok next) :
      Changes place (.metadata pattern) (.article article) (.article next)
  | headerTitle {header next : Header} (titled : header.setTitle place.textContent = .ok next) :
      Changes place (.headerTitle pattern) (.header header) (.header next)
  | headerKicker {header next : Header} (titled : header.setKicker place.textContent = .ok next) :
      Changes place (.headerKicker pattern) (.header header) (.header next)
  | interactive {article next : Article} {child : Interactive}
      (plain : pattern.isTruthy PropertyName.interactiveCaption place = false)
      (built : pattern.buildInteractive place = .ok child)
      (added : article.addChild (.interactive child) = .ok next) :
      Changes place (.interactive pattern) (.article article) (.article next)
  | video {article next : Article} {child : Video}
      (plain : pattern.isTruthy PropertyName.videoCaption place = false)
      (built : pattern.buildVideo place = .ok child)
      (added : article.addChild (.video child) = .ok next) :
      Changes place (.video pattern) (.article article) (.article next)
  | caption {context next : Element} (built : pattern.buildCaption place = .ok attached)
      (attaches : context.attachCaption attached = .ok next) :
      Changes place (.caption pattern kind) context next
  | ignore : Changes place (.ignore pattern kind) context context

/-- A rule starts a walk below a node in an inner context, and knows how to go on with what comes back. -/
inductive Descends (place : Place) :
    Rule → Element → Element → (Element → Except Error Element) → Prop where
  | header {article : Article} :
      Descends place (.header pattern) (.article article) (.header (article.header.getD {}))
        fun inner => do return .article (article.setHeader (← inner.asHeader))
  | interactive {article : Article} {child : Interactive}
      (captioned : pattern.isTruthy PropertyName.interactiveCaption place = true)
      (built : pattern.buildInteractive place = .ok child) :
      Descends place (.interactive pattern) (.article article) (.interactive child) article.withChild
  | video {article : Article} {child : Video}
      (captioned : pattern.isTruthy PropertyName.videoCaption place = true)
      (built : pattern.buildVideo place = .ok child) :
      Descends place (.video pattern) (.article article) (.video child) article.withChild
  | passThrough : Descends place (.passThrough pattern kind) context context .ok

/-- The ways in which a rule can carry out a plan. -/
def Acts (place : Place) (rule : Rule) (context : Element) : Plan → Prop
  | .done next => Changes place rule context next
  | .below inner finish => Descends place rule context inner finish
  | .hosted routine => ∃ host, rule = .host host ∧ host.build context place = routine

namespace Element

theorem asArticle_eq_ok {element : Element} {content : Article}
    (converted : element.asArticle = .ok content) : element = .article content := by
  cases element <;> cases converted
  rfl

theorem asHeader_eq_ok {element : Element} {content : Header}
    (converted : element.asHeader = .ok content) : element = .header content := by
  cases element <;> cases converted
  rfl

end Element

/-- A planned child goes into the body at once, or after a walk if a caption is to come. -/
theorem Article.planChild_eq_ok {article : Article} {child : Element} {captioned : Bool} {plan : Plan}
    (planned : article.planChild child captioned = .ok plan) :
    (captioned = true ∧ plan = .below child article.withChild) ∨
      (captioned = false ∧ ∃ next, article.addChild child = .ok next ∧ plan = .done (.article next)) := by
  cases captioned with
  | true =>
      cases planned
      exact Or.inl ⟨rfl, rfl⟩
  | false =>
      obtain ⟨element, placed, ended⟩ := Except.bind_eq_ok planned
      obtain ⟨next, added, wrapped⟩ := Except.bind_eq_ok placed
      cases wrapped
      cases ended
      exact Or.inr ⟨rfl, next, added, rfl⟩

/-- Whatever a rule plans is one of the ways in which it can act. -/
theorem Rule.acts_of_plan {rule : Rule} {context : Element} {place : Place} {plan : Plan}
    (planned : rule.plan context place = .ok plan) : Acts place rule context plan := by
  cases rule with
  | metadata pattern =>
      obtain ⟨article, converted, continued⟩ := Except.bind_eq_ok planned
      obtain rfl := Element.asArticle_eq_ok converted
      obtain ⟨next, described, ended⟩ := Except.bind_eq_ok continued
      cases ended
      exact Changes.metadata described
  | header pattern =>
      obtain ⟨article, converted, ended⟩ := Except.bind_eq_ok planned
      obtain rfl := Element.asArticle_eq_ok converted
      cases ended
      exact Descends.header
  | headerTitle pattern =>
      obtain ⟨header, converted, continued⟩ := Except.bind_eq_ok planned
      obtain rfl := Element.asHeader_eq_ok converted
      obtain ⟨next, titled, ended⟩ := Except.bind_eq_ok continued
      cases ended
      exact Changes.headerTitle titled
  | headerKicker pattern =>
      obtain ⟨header, converted, continued⟩ := Except.bind_eq_ok planned
      obtain rfl := Element.asHeader_eq_ok converted
      obtain ⟨next, titled, ended⟩ := Except.bind_eq_ok continued
      cases ended
      exact Changes.headerKicker titled
  | interactive pattern =>
      obtain ⟨article, converted, continued⟩ := Except.bind_eq_ok planned
      obtain rfl := Element.asArticle_eq_ok converted
      obtain ⟨child, built, ended⟩ := Except.bind_eq_ok continued
      obtain ⟨captioned, rfl⟩ | ⟨plain, next, added, rfl⟩ := Article.planChild_eq_ok ended
      · exact Descends.interactive captioned built
      · exact Changes.interactive plain built added
  | video pattern =>
      obtain ⟨article, converted, continued⟩ := Except.bind_eq_ok planned
      obtain rfl := Element.asArticle_eq_ok converted
      obtain ⟨child, built, ended⟩ := Except.bind_eq_ok continued
      obtain ⟨captioned, rfl⟩ | ⟨plain, next, added, rfl⟩ := Article.planChild_eq_ok ended
      · exact Descends.video captioned built
      · exact Changes.video plain built added
  | caption pattern kind =>
      obtain ⟨attached, built, continued⟩ := Except.bind_eq_ok planned
      obtain ⟨next, attaches, ended⟩ := Except.bind_eq_ok continued
      cases ended
      exact Changes.caption built attaches
  | passThrough pattern kind =>
      cases planned
      exact Descends.passThrough
  | ignore pattern kind =>
      cases planned
      exact Changes.ignore
  | host rule =>
      cases planned
      exact ⟨rule, rfl, rfl⟩

section Responds

variable {rules : List Rule} {context : Element} {place : Place} {rule : Rule} {routine : Routine}

/-- Only the rules of hosts leave a node to a routine. -/
theorem Responds.exists_host (response : Responds rules context place rule (.ok (.hosted routine))) :
    ∃ host, .host host ∈ rules ∧ host.build context place = routine := by
  obtain ⟨host, rfl, built⟩ := Rule.acts_of_plan response.plans
  exact ⟨host, response.mem, built⟩

theorem Responds.not_hosted (builtIn : Rule.AllBuiltIn rules)
    (response : Responds rules context place rule (.ok (.hosted routine))) : False := by
  obtain ⟨host, member, _⟩ := response.exists_host
  cases builtIn _ member

/-- The routine of a host that stays at its node starts no walk. -/
theorem Responds.eq_nil_of_stay {walks : List HostWalk} {result : Except Error Element}
    (stay : Rule.HostsStay rules) (response : Responds rules context place rule (.ok (.hosted routine)))
    (runs : routine.Runs walks result) : walks = [] := by
  obtain ⟨host, member, rfl⟩ := response.exists_host
  exact runs.eq_nil_of_stays (stay host member context place)

end Responds

end ArticleRules
