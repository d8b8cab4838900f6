import ArticleRules.Proofs.Element.Edit
import ArticleRules.Proofs.Rule.Kind

/-
This file shows that a rule of the library treats all contexts of its kind alike. Whether it fails, what it
sets and where it walks on follow from the kind of the context and the node.
-/

namespace ArticleRules

/-- A change of articles that sets the same fields in every article, or fails with the same error. -/
def SetsAlike (change : Article → Except Error Article) : Prop :=
  ∃ outcome : Except Error Edit, ∀ article, change article = outcome.map (·.applyToArticle article)

namespace SetsAlike

theorem edit (edit : Edit) : SetsAlike fun article => .ok (edit.applyToArticle article) :=
  ⟨.ok edit, fun _ => rfl⟩

theorem pure : SetsAlike fun article => .ok article := by
  refine ⟨.ok {}, fun article => ?_⟩
  exact congrArg Except.ok (Edit.applyToArticle_blank article).symm

theorem throw (error : Error) : SetsAlike fun _ => .error error :=
  ⟨.error error, fun _ => rfl⟩

theorem bind {first second : Article → Except Error Article} (earlier : SetsAlike first)
    (later : SetsAlike second) : SetsAlike fun article => first article >>= second := by
  obtain ⟨outcome, sets⟩ := earlier
  obtain ⟨continued, setsLater⟩ := later
  refine ⟨outcome >>= fun edit => continued.map edit.andThen, fun article => ?_⟩
  show first article >>= second = _
  rw [sets]
  cases outcome with
  | error error => rfl
  | ok edit =>
      change second (edit.applyToArticle article) = _
      rw [setsLater]
      cases continued with
      | error error => rfl
      | ok other => exact congrArg Except.ok (edit.applyToArticle_andThen other article).symm

/-- A text for a field is checked without a look at the article. -/
theorem require {set : String → Article → Article} (edit : String → Edit)
    (setting : ∀ text article, set text article = (edit text).applyToArticle article) (field : Field)
    (value : String) :
    SetsAlike fun article => requireText field value >>= fun text => Pure.pure (set text article) := by
  refine ⟨(requireText field value).map edit, fun article => ?_⟩
  show requireText field value >>= _ = _
  cases requireText field value with
  | error error => rfl
  | ok text => exact congrArg Except.ok (setting text article)

end SetsAlike

namespace Article

theorem setCanonicalUrl_alike (url : String) : SetsAlike (setCanonicalUrl · url) := by
  cases checked : Address.check (Text.trim url) with
  | error fault =>
      have refuses : (setCanonicalUrl · url) = fun _ =>
          .error (.invalidValue .canonical (Text.trim url) (.address fault)) := by
        funext article
        simp only [setCanonicalUrl, checked]
      rw [refuses]
      exact .throw _
  | ok =>
      have sets : (setCanonicalUrl · url) = fun article =>
          .ok (Edit.applyToArticle { canonicalUrl := some (Text.trim url) } article) := by
        funext article
        simp [setCanonicalUrl, checked, Edit.applyToArticle, Header.coveringMissing]
      rw [sets]
      exact .edit _

theorem setCharset_alike (charset : String) : SetsAlike (setCharset · charset) := by
  apply SetsAlike.require fun text => { charset := some text }
  intro text article
  simp [Edit.applyToArticle, Header.coveringMissing]

theorem setMarkupVersion_alike (version : String) : SetsAlike (setMarkupVersion · version) := by
  apply SetsAlike.require fun text => { markupVersion := some text }
  intro text article
  simp [Edit.applyToArticle, Header.coveringMissing]

end Article

namespace Pattern

theorem setText_alike {set : Article → String → Except Error Article}
    (setting : ∀ text, SetsAlike (set · text)) (pattern : Pattern) (name : String) (place : Place) :
    SetsAlike (pattern.setText name place · set) := by
  unfold setText
  cases pattern.truthy? name place with
  | none => exact .pure
  | some value => exact setting value.toText

/-- The metadata that a pattern reads from a node do not depend on the article. -/
theorem describeArticle_alike (pattern : Pattern) (place : Place) :
    SetsAlike (pattern.describeArticle · place) := by
  unfold describeArticle
  cases pattern.require RuleName.metadata PropertyName.canonical place with
  | error error =>
      simp only [Except.error_bind]
      exact .throw error
  | ok canonical =>
      simp only [Except.ok_bind]
      have ads : SetsAlike fun article => Pure.pure
          (if pattern.readsFalse PropertyName.automaticAds place then article.setAutomaticAds false
            else article) := by
        cases pattern.readsFalse PropertyName.automaticAds place with
        | false => exact .pure
        | true =>
            refine ⟨.ok { stopsAds := true }, fun article => ?_⟩
            exact congrArg Except.ok (by simp [Article.setAutomaticAds, Edit.applyToArticle,
              Header.coveringMissing])
      apply (Article.setCanonicalUrl_alike canonical.toText).bind
      apply (setText_alike Article.setCharset_alike pattern PropertyName.charset place).bind
      exact (setText_alike Article.setMarkupVersion_alike pattern _ place).bind ads

end Pattern

/-- What a rule makes of the contexts of its kind at a node. It settles all of them with the same edit or
the same error, or it walks below the node for all of them, in contexts of one kind, and turns an edit of
what it walked with into an edit of the context. -/
inductive PlansAlike (rule : Rule) (place : Place) : Prop where
  | settles (outcome : Except Error Edit)
      (plans : ∀ context, context.kind = rule.context →
        rule.plan context place = outcome.map fun edit => .done (edit.apply context))
  | descends (kind : Kind) (outer : Edit → Edit)
      (plans : ∀ context, context.kind = rule.context → ∃ inner finish,
        rule.plan context place = .ok (.below inner finish) ∧ inner.kind = kind ∧
          ∀ edit, finish (edit.apply inner) = .ok ((outer edit).apply context))

theorem Edit.apply_added (article : Article) (child : Element) :
    Edit.apply { added := [child] } (.article article) =
      .article { article with children := article.children ++ [child] } := by
  simp [apply, applyToArticle, Header.coveringMissing]

/-- An interactive element or a video can be put into the body of every article. -/
theorem Article.withChild_eq {child : Element} (inBody : child.kind = .interactive ∨ child.kind = .video)
    (article : Article) :
    article.withChild child = .ok (Edit.apply { added := [child] } (.article article)) := by
  rw [Edit.apply_added]
  cases child with
  | interactive | video => rfl
  | article | header | caption => rcases inBody with same | same <;> cases same

/-- A rule that builds a child from the node alone adds it to every article in the same way. -/
theorem PlansAlike.child {rule : Rule} {place : Place} {captioned : Bool}
    (build : Except Error Element) (forArticles : rule.context = .article)
    (inBody : ∀ child, build = .ok child → child.kind = .interactive ∨ child.kind = .video)
    (plans : ∀ article : Article, rule.plan (.article article) place =
      build >>= fun child => article.planChild child captioned) : PlansAlike rule place := by
  rcases build with error | child
  · refine .settles (.error error) fun context same => ?_
    obtain ⟨article, rfl⟩ := Element.exists_eq_article (same.trans forArticles)
    exact plans article
  have fits : ∀ edit : Edit, (edit.apply child).kind = .interactive ∨ (edit.apply child).kind = .video := by
    intro edit
    rw [Edit.kind_apply]
    exact inBody child rfl
  cases captioned with
  | true =>
      refine .descends child.kind (fun edit => { added := [edit.apply child] }) fun context same => ?_
      obtain ⟨article, rfl⟩ := Element.exists_eq_article (same.trans forArticles)
      exact ⟨_, _, plans article, rfl, fun edit => Article.withChild_eq (fits edit) article⟩
  | false =>
      refine .settles (.ok { added := [child] }) fun context same => ?_
      obtain ⟨article, rfl⟩ := Element.exists_eq_article (same.trans forArticles)
      rw [plans, Except.ok_bind, Article.planChild, Article.withChild_eq (inBody child rfl)]
      rfl

/-- The kind of an element decides whether a caption can be attached. -/
theorem Element.attachCaption_alike (kind : Kind) (attached : Caption) :
    ∃ outcome : Except Error Edit, ∀ element, element.kind = kind →
      element.attachCaption attached = outcome.map (·.apply element) := by
  by_cases holds : kind = .interactive ∨ kind = .video
  · refine ⟨.ok { caption := some attached }, fun element same => ?_⟩
    cases element with
    | interactive | video => rfl
    | article | header | caption => rcases holds with rfl | rfl <;> cases same
  · refine ⟨.error (.contextMismatch .interactive kind), fun element same => ?_⟩
    subst same
    cases element with
    | interactive => exact absurd (Or.inl rfl) holds
    | video => exact absurd (Or.inr rfl) holds
    | article | header | caption => rfl

/-- A rule of the library treats all contexts of its kind alike. -/
theorem Rule.plansAlike {rule : Rule} (builtIn : rule.isBuiltIn = true) (place : Place) :
    PlansAlike rule place := by
  cases rule with
  | metadata pattern =>
      obtain ⟨outcome, sets⟩ := pattern.describeArticle_alike place
      dsimp only at sets
      refine .settles outcome fun context same => ?_
      obtain ⟨article, rfl⟩ := Element.exists_eq_article same
      rw [plan_metadata, sets]
      cases outcome <;> rfl
  | header pattern =>
      refine .descends .header (fun edit => { header := some (edit.header.getD {}) }) ?_
      intro context same
      obtain ⟨article, rfl⟩ := Element.exists_eq_article same
      refine ⟨_, _, plan_header pattern article place, rfl, fun edit => ?_⟩
      simp only [Edit.apply, Edit.applyToArticle, Header.coveringMissing, Element.asHeader, Option.none_or,
        Except.ok_bind, Bool.not_false, Bool.and_true, List.append_nil]
      rfl
  | headerTitle pattern =>
      refine .settles ((requireText .headerTitle place.textContent).map fun title =>
        { header := some { title := some title } }) fun context same => ?_
      obtain ⟨header, rfl⟩ := Element.exists_eq_header same
      rw [plan_headerTitle, Header.setTitle]
      cases requireText .headerTitle place.textContent <;> rfl
  | headerKicker pattern =>
      refine .settles ((requireText .headerKicker place.textContent).map fun kicker =>
        { header := some { kicker := some kicker } }) fun context same => ?_
      obtain ⟨header, rfl⟩ := Element.exists_eq_header same
      rw [plan_headerKicker, Header.setKicker]
      cases requireText .headerKicker place.textContent <;> rfl
  | interactive pattern =>
      apply PlansAlike.child ((pattern.buildInteractive place).map .interactive) rfl
      · intro child built
        cases made : pattern.buildInteractive place <;> rw [made] at built <;> cases built
        exact Or.inl rfl
      · intro article
        rw [plan_interactive]
        cases pattern.buildInteractive place <;> rfl
  | video pattern =>
      apply PlansAlike.child ((pattern.buildVideo place).map .video) rfl
      · intro child built
        cases made : pattern.buildVideo place <;> rw [made] at built <;> cases built
        exact Or.inr rfl
      · intro article
        rw [plan_video]
        cases pattern.buildVideo place <;> rfl
  | caption pattern kind =>
      cases built : pattern.buildCaption place with
      | error error =>
          refine .settles (.error error) fun context _ => ?_
          simp only [plan, built, Except.error_bind]
          rfl
      | ok attached =>
          obtain ⟨outcome, attaches⟩ := Element.attachCaption_alike kind attached
          refine .settles outcome fun context same => ?_
          have plans : (caption pattern kind).plan context place =
              context.attachCaption attached >>= fun next => pure (.done next) := by
            simp only [plan, built, Except.ok_bind]
          rw [plans, attaches context same]
          cases outcome <;> rfl
  | passThrough pattern kind =>
      exact .descends kind id fun context same => ⟨context, .ok, rfl, same, fun _ => rfl⟩
  | ignore pattern kind =>
      refine .settles (.ok {}) fun context _ => ?_
      simp only [Except.map, Edit.apply_blank]
      rfl
  | host host => cases builtIn

end ArticleRules
