import ArticleRules.Proofs.Element.Ensures

/-
This file says how rules build elements from what they read at a node. A property holds of what is built if
it holds once the first field is set and the operations that follow keep it, whatever they are given.
-/

namespace ArticleRules

/-- A property of articles that is kept when metadata are set. -/
structure Article.KeptByMetadata (property : Article → Prop) : Prop where
  canonicalUrl : ∀ article url, property article → Ensures property (article.setCanonicalUrl url)
  charset : ∀ article name, property article → Ensures property (article.setCharset name)
  markupVersion : ∀ article version, property article →
    Ensures property (article.setMarkupVersion version)
  automaticAds : ∀ article, property article → property (article.setAutomaticAds false)

/-- A property of interactive elements that comes with their content, and one that comes with their size. -/
structure Interactive.BuiltWith (filled sized : Interactive → Prop) : Prop where
  html : ∀ markup, Ensures filled (Interactive.setHtml {} markup)
  source : ∀ url, Ensures filled (Interactive.setSource {} url)
  both : ∀ interactive url, filled interactive → Ensures filled (interactive.setSource url)
  width : ∀ interactive width, filled interactive → sized (interactive.setWidth width)
  height : ∀ interactive pixels, sized interactive → Ensures sized (interactive.setHeight pixels)

/-- A property of videos that comes with their address and is kept from then on. -/
structure Video.BuiltWith (property : Video → Prop) : Prop where
  url : ∀ url, Ensures property (Video.setUrl {} url)
  mediaType : ∀ video name, property video → Ensures property (video.setMediaType name)
  presentation : ∀ video presentation, property video → property (video.setPresentation presentation)
  controls : ∀ video, property video → property video.enableControls
  autoplay : ∀ video, property video → property video.disableAutoplay

namespace Pattern

/-- Setting a field from a property ensures what setting it from any text ensures. -/
theorem setText_ensures {property : α → Prop} {element : α} {set : α → String → Except Error α}
    (holds : property element) (setting : ∀ text, Ensures property (set element text))
    (pattern : Pattern) (name : String) (place : Place) :
    Ensures property (pattern.setText name place element set) := by
  unfold setText
  split
  · exact setting _
  · exact .pure holds

theorem describeArticle_ensures {property : Article → Prop} (kept : Article.KeptByMetadata property)
    {article : Article} (holds : property article) (pattern : Pattern) (place : Place) :
    Ensures property (pattern.describeArticle article place) := by
  refine .after fun canonical => ?_
  refine (kept.canonicalUrl _ _ holds).bind fun addressed holds => ?_
  have setsCharset := fun name => kept.charset addressed name holds
  refine (setText_ensures holds setsCharset pattern _ place).bind fun encoded holds => ?_
  have setsVersion := fun version => kept.markupVersion encoded version holds
  refine (setText_ensures holds setsVersion pattern _ place).bind fun versioned holds => ?_
  refine .pure ?_
  split
  · exact kept.automaticAds versioned holds
  · exact holds

theorem buildInteractive_ensures {filled sized : Interactive → Prop}
    (built : Interactive.BuiltWith filled sized) (pattern : Pattern) (place : Place) :
    Ensures sized (pattern.buildInteractive place) := by
  have sizes : ∀ interactive : Interactive, filled interactive →
      Ensures sized (pattern.sizeInteractive place interactive) := by
    intro interactive holds
    refine .after fun height => ?_
    have widened := built.width interactive
      (if pattern.isTruthy PropertyName.columnWidth place then .column else .noMargin) holds
    cases height with
    | none => exact .pure widened
    | some pixels => exact built.height _ pixels widened
  rw [buildInteractive_eq]
  split
  · exact .throw _
  · exact (built.html _).bind sizes
  · exact (built.source _).bind sizes
  · refine (built.html _).bind fun framed holds => ?_
    exact (built.both framed _ holds).bind sizes

theorem buildVideo_ensures {property : Video → Prop} (built : Video.BuiltWith property)
    (pattern : Pattern) (place : Place) : Ensures property (pattern.buildVideo place) := by
  refine .after fun url => ?_
  refine (built.url _).bind fun addressed holds => ?_
  have setsType := fun name => built.mediaType addressed name holds
  refine (setText_ensures holds setsType pattern _ place).bind fun typed holds => ?_
  have setsPresentation : ∀ name : String, Ensures property
      (Presentation.read name >>= fun presentation => pure (typed.setPresentation presentation)) :=
    fun name => .after fun presentation => .pure (built.presentation typed presentation holds)
  refine (setText_ensures holds setsPresentation pattern _ place).bind fun presented holds => ?_
  have controlled : property (if pattern.isTruthy PropertyName.controls place then
      presented.enableControls else presented) := by
    split
    · exact built.controls presented holds
    · exact holds
  refine .pure ?_
  split
  · exact built.autoplay _ controlled
  · exact controlled

end Pattern

end ArticleRules
