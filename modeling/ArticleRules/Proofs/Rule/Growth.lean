import ArticleRules.Proofs.Element.Growth
import ArticleRules.Proofs.Rule.Building
import ArticleRules.Proofs.Rule.Kind

/-
This file shows that rules of the library let articles grow. They build complete elements only, and each of
them adds at most one element to the body at a node.
-/

namespace ArticleRules

theorem Article.growsInto_keptByMetadata (earlier : Article) : KeptByMetadata earlier.GrowsInto where
  canonicalUrl _ url grown := grown.setCanonicalUrl url
  charset _ name grown := grown.setCharset name
  markupVersion _ version grown := grown.setMarkupVersion version
  automaticAds _ grown := grown.stopAds

/-- Metadata leave the body alone. -/
theorem Article.children_keptByMetadata (body : List Element) :
    KeptByMetadata fun article => article.children = body where
  canonicalUrl article url same := by
    unfold setCanonicalUrl
    dsimp only
    split
    · exact .pure same
    · exact .throw _
  charset _ _ same := .after fun _ => .pure same
  markupVersion _ _ same := .after fun _ => .pure same
  automaticAds _ same := same

/-- There is something to show once markup or an address is set, and the width completes the element. -/
theorem Interactive.isComplete_builtWith :
    BuiltWith (fun interactive => interactive.source.isSome ∨ interactive.html.isSome) IsComplete where
  html _ := .after fun _ => .pure (Or.inr rfl)
  source _ := .after fun _ => .pure (Or.inl rfl)
  both _ _ _ := .after fun _ => .pure (Or.inl rfl)
  width _ _ filled := ⟨rfl, filled⟩
  height interactive pixels complete := by
    unfold setHeight
    split
    · exact .throw _
    · exact .pure complete

/-- The address comes first and completes the video. -/
theorem Video.isComplete_builtWith : BuiltWith IsComplete where
  url _ := .after fun _ => .pure rfl
  mediaType video name complete := by
    refine .after fun trimmed => ?_
    split
    · exact .pure complete
    · exact .throw _
  presentation _ _ complete := complete
  controls _ complete := complete
  autoplay _ complete := complete

namespace Pattern

theorem describeArticle_growsInto (pattern : Pattern) (article : Article) (place : Place) :
    Ensures article.GrowsInto (pattern.describeArticle article place) :=
  describeArticle_ensures article.growsInto_keptByMetadata (.refl article) pattern place

theorem describeArticle_children (pattern : Pattern) (article : Article) (place : Place) :
    Ensures (fun next => next.children = article.children) (pattern.describeArticle article place) :=
  describeArticle_ensures (Article.children_keptByMetadata article.children) rfl pattern place

theorem buildInteractive_isComplete (pattern : Pattern) (place : Place) :
    Ensures Interactive.IsComplete (pattern.buildInteractive place) :=
  buildInteractive_ensures Interactive.isComplete_builtWith pattern place

theorem buildVideo_isComplete (pattern : Pattern) (place : Place) :
    Ensures Video.IsComplete (pattern.buildVideo place) :=
  buildVideo_ensures Video.isComplete_builtWith pattern place

end Pattern

theorem Article.addChild_growsInto {article next : Article} {child : Element}
    (complete : child.IsComplete) (added : article.addChild child = .ok next) :
    article.GrowsInto next := by
  obtain ⟨_, rfl⟩ := addChild_eq_ok added
  exact .child article complete

section rule

variable {place : Place} {rule : Rule} {article : Article} {context inner completed next : Element}
  {finish : Element → Except Error Element}

/-- A rule that is done with a node lets an article grow. -/
theorem Changes.growsInto (changes : Changes place rule (.article article) next) :
    ∃ grown, next = .article grown ∧ article.GrowsInto grown := by
  generalize start : Element.article article = context at changes
  cases changes with
  | metadata described =>
      cases start
      exact ⟨_, rfl, Pattern.describeArticle_growsInto _ article place _ described⟩
  | interactive plain built added =>
      cases start
      have complete : (Element.interactive _).IsComplete :=
        Pattern.buildInteractive_isComplete _ place _ built
      exact ⟨_, rfl, Article.addChild_growsInto complete added⟩
  | video plain built added =>
      cases start
      have complete : (Element.video _).IsComplete := Pattern.buildVideo_isComplete _ place _ built
      exact ⟨_, rfl, Article.addChild_growsInto complete added⟩
  | ignore =>
      cases start
      exact ⟨article, rfl, .refl article⟩
  | caption built attaches =>
      cases start
      cases attaches
  | headerTitle | headerKicker => cases start

/-- A rule walks below a node with the article itself, or with an element of another kind. Whatever this
walk does to the other element, the article grows when it comes back. -/
theorem Descends.growsInto (descends : Descends place rule (.article article) inner finish) :
    (inner = .article article ∧ finish = .ok) ∨
      inner.kind ≠ .article ∧ ∀ edit next, finish (Edit.apply edit inner) = .ok next →
        ∃ grown, next = .article grown ∧ article.GrowsInto grown := by
  generalize start : Element.article article = context at descends
  cases descends with
  | passThrough =>
      cases start
      exact Or.inl ⟨rfl, rfl⟩
  | header =>
      cases start
      refine Or.inr ⟨Kind.noConfusion, fun edit next finishes => ?_⟩
      cases finishes
      exact ⟨_, rfl, .covering _ article⟩
  | interactive captioned built =>
      cases start
      have complete : (Element.interactive _).IsComplete :=
        Pattern.buildInteractive_isComplete _ place _ built
      refine Or.inr ⟨Kind.noConfusion, fun edit next finishes => ?_⟩
      cases finishes
      exact ⟨_, rfl, .child article (complete.edited edit)⟩
  | video captioned built =>
      cases start
      have complete : (Element.video _).IsComplete := Pattern.buildVideo_isComplete _ place _ built
      refine Or.inr ⟨Kind.noConfusion, fun edit next finishes => ?_⟩
      cases finishes
      exact ⟨_, rfl, .child article (complete.edited edit)⟩

/-- A rule adds at most one element to the body. -/
theorem Changes.bodySize_le (changes : Changes place rule context next) :
    next.bodySize ≤ context.bodySize + 1 := by
  cases changes with
  | metadata described =>
      have same := Pattern.describeArticle_children _ _ place _ described
      simp only [Element.bodySize, same]
      omega
  | interactive plain built added | video plain built added =>
      obtain ⟨_, rfl⟩ := Article.addChild_eq_ok added
      simp [Element.bodySize]
  | caption built attaches =>
      cases context <;> cases attaches <;> simp [Element.bodySize]
  | headerTitle | headerKicker => simp [Element.bodySize]
  | ignore => omega

/-- Besides what a walk below the node added, a rule adds at most one element to the body. -/
theorem Descends.bodySize_le (descends : Descends place rule context inner finish)
    (finishes : finish completed = .ok next) :
    next.bodySize + inner.bodySize ≤ context.bodySize + completed.bodySize + 1 := by
  cases descends with
  | passThrough =>
      cases finishes
      omega
  | header =>
      obtain ⟨header, converted, ended⟩ := Except.bind_eq_ok finishes
      cases ended
      simp only [Element.bodySize, Article.setHeader]
      omega
  | interactive captioned built | video captioned built =>
      obtain ⟨grown, added, ended⟩ := Except.bind_eq_ok finishes
      cases ended
      obtain ⟨_, rfl⟩ := Article.addChild_eq_ok added
      simp only [Element.bodySize, List.length_append, List.length_singleton]
      omega

end rule

end ArticleRules
