import ArticleRules.Proofs.Element.WellFormed
import ArticleRules.Proofs.Rule.Action
import ArticleRules.Proofs.Rule.Building

/-
This file shows that rules of the library keep elements well formed. Everything that they read from a node
goes through the operations on elements.
-/

namespace ArticleRules

theorem Article.wellFormed_keptByMetadata : KeptByMetadata WellFormed where
  canonicalUrl _ url wellFormed := setCanonicalUrl_wellFormed wellFormed url
  charset _ name wellFormed := setCharset_wellFormed wellFormed name
  markupVersion _ version wellFormed := setMarkupVersion_wellFormed wellFormed version
  automaticAds _ wellFormed := setAutomaticAds_wellFormed wellFormed false

theorem Interactive.wellFormed_builtWith : BuiltWith WellFormed WellFormed where
  html markup := setHtml_wellFormed blank_wellFormed markup
  source url := setSource_wellFormed blank_wellFormed url
  both _ url wellFormed := setSource_wellFormed wellFormed url
  width _ width wellFormed := setWidth_wellFormed wellFormed width
  height _ pixels wellFormed := setHeight_wellFormed wellFormed pixels

theorem Video.wellFormed_builtWith : BuiltWith WellFormed where
  url url := setUrl_wellFormed blank_wellFormed url
  mediaType _ name wellFormed := setMediaType_wellFormed wellFormed name
  presentation _ presentation wellFormed := setPresentation_wellFormed wellFormed presentation
  controls _ wellFormed := enableControls_wellFormed wellFormed
  autoplay _ wellFormed := disableAutoplay_wellFormed wellFormed

namespace Pattern

theorem describeArticle_wellFormed (pattern : Pattern) {article : Article}
    (wellFormed : article.WellFormed) (place : Place) :
    Ensures Article.WellFormed (pattern.describeArticle article place) :=
  describeArticle_ensures Article.wellFormed_keptByMetadata wellFormed pattern place

theorem buildInteractive_wellFormed (pattern : Pattern) (place : Place) :
    Ensures Interactive.WellFormed (pattern.buildInteractive place) :=
  buildInteractive_ensures Interactive.wellFormed_builtWith pattern place

theorem buildVideo_wellFormed (pattern : Pattern) (place : Place) :
    Ensures Video.WellFormed (pattern.buildVideo place) :=
  buildVideo_ensures Video.wellFormed_builtWith pattern place

theorem buildCaption_wellFormed (pattern : Pattern) (place : Place) :
    Ensures Caption.WellFormed (pattern.buildCaption place) := by
  refine (Caption.setTitle_wellFormed Caption.blank_wellFormed _).bind fun titled wellFormed => ?_
  have setsCredit := Caption.setCredit_wellFormed wellFormed
  exact setText_ensures wellFormed setsCredit pattern _ place

end Pattern

section rule

variable {place : Place} {rule : Rule} {context inner completed next : Element}
  {finish : Element → Except Error Element}

/-- A rule that is done with a node leaves a well-formed context. -/
theorem Changes.wellFormed (changes : Changes place rule context next)
    (wellFormed : context.WellFormed) : next.WellFormed := by
  cases changes with
  | metadata described => exact Pattern.describeArticle_wellFormed _ wellFormed place _ described
  | headerTitle titled =>
      have header := Element.wellFormed_header.1 wellFormed
      exact .header (Header.setTitle_wellFormed header _ _ titled)
  | headerKicker titled =>
      have header := Element.wellFormed_header.1 wellFormed
      exact .header (Header.setKicker_wellFormed header _ _ titled)
  | interactive plain built added =>
      have child := Pattern.buildInteractive_wellFormed _ place _ built
      exact Article.addChild_wellFormed wellFormed (.interactive child) _ added
  | video plain built added =>
      have child := Pattern.buildVideo_wellFormed _ place _ built
      exact Article.addChild_wellFormed wellFormed (.video child) _ added
  | caption built attaches =>
      have attached := Pattern.buildCaption_wellFormed _ place _ built
      exact Element.attachCaption_wellFormed wellFormed attached _ attaches
  | ignore => exact wellFormed

/-- A header that is missing starts blank. -/
theorem Article.header_wellFormed {article : Article} (wellFormed : article.WellFormed) :
    (article.header.getD {}).WellFormed := by
  have described := wellDescribed wellFormed
  cases present : article.header with
  | none => exact Header.blank_wellFormed
  | some header => exact described.header header present

/-- A walk below a node starts in a well-formed context. -/
theorem Descends.wellFormed_inner (descends : Descends place rule context inner finish)
    (wellFormed : context.WellFormed) : inner.WellFormed := by
  cases descends with
  | header => exact .header (Article.header_wellFormed wellFormed)
  | interactive captioned built => exact .interactive (Pattern.buildInteractive_wellFormed _ place _ built)
  | video captioned built => exact .video (Pattern.buildVideo_wellFormed _ place _ built)
  | passThrough => exact wellFormed

theorem Article.withChild_wellFormed {article : Article} {child : Element}
    (wellFormed : article.WellFormed) (childWellFormed : child.WellFormed) :
    Ensures Element.WellFormed (article.withChild child) :=
  (addChild_wellFormed wellFormed childWellFormed).bind fun _ added => .pure added

/-- A well-formed element that comes back from below a node leaves a well-formed context. -/
theorem Descends.wellFormed_finish (descends : Descends place rule context inner finish)
    (wellFormed : context.WellFormed) (completedWellFormed : completed.WellFormed) :
    Ensures Element.WellFormed (finish completed) := by
  cases descends with
  | header =>
      intro next finishes
      obtain ⟨header, converted, ended⟩ := Except.bind_eq_ok finishes
      cases ended
      rw [Element.asHeader_eq_ok converted] at completedWellFormed
      exact Article.setHeader_wellFormed wellFormed (Element.wellFormed_header.1 completedWellFormed)
  | interactive | video => exact Article.withChild_wellFormed wellFormed completedWellFormed
  | passThrough => exact .pure completedWellFormed

variable {rules : List Rule}

/-- A rule that answers for a node and is done leaves a well-formed context. -/
theorem Responds.wellFormed_done
    (response : Responds rules context place rule (.ok (.done next)))
    (wellFormed : context.WellFormed) : next.WellFormed := by
  have changes := Rule.acts_of_plan response.plans
  exact Changes.wellFormed changes wellFormed

theorem Responds.wellFormed_inner
    (response : Responds rules context place rule (.ok (.below inner finish)))
    (wellFormed : context.WellFormed) : inner.WellFormed := by
  have descends := Rule.acts_of_plan response.plans
  exact Descends.wellFormed_inner descends wellFormed

/-- So does a rule that goes on with a well-formed element from below. -/
theorem Responds.wellFormed_finished
    (response : Responds rules context place rule (.ok (.below inner finish)))
    (wellFormed : context.WellFormed) (completedWellFormed : completed.WellFormed)
    (finishes : finish completed = .ok next) : next.WellFormed := by
  have descends := Rule.acts_of_plan response.plans
  exact Descends.wellFormed_finish descends wellFormed completedWellFormed next finishes

end rule

end ArticleRules
