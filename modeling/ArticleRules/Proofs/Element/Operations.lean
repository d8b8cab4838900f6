import ArticleRules.Proofs.Element.WellFormed

/-
This file lists the operations that make elements from elements: those that set a field, those that hand out
an element as what it is, and those that put one element into another. All of them keep elements well formed.
-/

namespace ArticleRules

namespace Element

/-- One operation sets a field of an element, whatever it is set to. -/
inductive Sets : Element → Element → Prop where
  | canonicalUrl {article next : Article} (set : article.setCanonicalUrl url = .ok next) :
      Sets (.article article) (.article next)
  | charset {article next : Article} (set : article.setCharset name = .ok next) :
      Sets (.article article) (.article next)
  | markupVersion {article next : Article} (set : article.setMarkupVersion version = .ok next) :
      Sets (.article article) (.article next)
  | automaticAds {article : Article} :
      Sets (.article article) (.article (article.setAutomaticAds enabled))
  | headerTitle {header next : Header} (set : header.setTitle title = .ok next) :
      Sets (.header header) (.header next)
  | headerKicker {header next : Header} (set : header.setKicker kicker = .ok next) :
      Sets (.header header) (.header next)
  | captionTitle {caption next : Caption} (set : caption.setTitle title = .ok next) :
      Sets (.caption caption) (.caption next)
  | captionCredit {caption next : Caption} (set : caption.setCredit credit = .ok next) :
      Sets (.caption caption) (.caption next)
  | source {interactive next : Interactive} (set : interactive.setSource url = .ok next) :
      Sets (.interactive interactive) (.interactive next)
  | html {interactive next : Interactive} (set : interactive.setHtml markup = .ok next) :
      Sets (.interactive interactive) (.interactive next)
  | width {interactive : Interactive} :
      Sets (.interactive interactive) (.interactive (interactive.setWidth width))
  | height {interactive next : Interactive} (set : interactive.setHeight pixels = .ok next) :
      Sets (.interactive interactive) (.interactive next)
  | url {video next : Video} (set : video.setUrl url = .ok next) : Sets (.video video) (.video next)
  | mediaType {video next : Video} (set : video.setMediaType name = .ok next) :
      Sets (.video video) (.video next)
  | presentation {video : Video} : Sets (.video video) (.video (video.setPresentation presentation))
  | autoplay {video : Video} : Sets (.video video) (.video video.disableAutoplay)
  | controls {video : Video} : Sets (.video video) (.video video.enableControls)

/-- One operation hands out what an element is, for an element of the kind that is asked for. -/
inductive Converts (element : Element) : Element → Prop where
  | article (converted : element.asArticle = .ok content) : Converts element (.article content)
  | header (converted : element.asHeader = .ok content) : Converts element (.header content)
  | interactive (converted : element.asInteractive = .ok content) :
      Converts element (.interactive content)
  | video (converted : element.asVideo = .ok content) : Converts element (.video content)

/-- One operation puts an element into another. -/
inductive Takes : Element → Element → Element → Prop where
  | header {article : Article} {part : Header} :
      Takes (.header part) (.article article) (.article (article.setHeader part))
  | child {article next : Article} (added : article.addChild child = .ok next) :
      Takes child (.article article) (.article next)
  | interactiveCaption {interactive : Interactive} {part : Caption} :
      Takes (.caption part) (.interactive interactive)
        (.interactive (interactive.setCaption part))
  | videoCaption {video : Video} {part : Caption} :
      Takes (.caption part) (.video video) (.video (video.setCaption part))
  | attached {element next : Element} {part : Caption} (attaches : element.attachCaption part = .ok next) :
      Takes (.caption part) element next

variable {element part next : Element}

/-- What is set is checked and trimmed by the operation that sets it. -/
theorem Sets.wellFormed (sets : Sets element next) (wellFormed : element.WellFormed) :
    next.WellFormed := by
  cases sets with
  | canonicalUrl set => exact Article.setCanonicalUrl_wellFormed wellFormed _ _ set
  | charset set => exact Article.setCharset_wellFormed wellFormed _ _ set
  | markupVersion set => exact Article.setMarkupVersion_wellFormed wellFormed _ _ set
  | automaticAds => exact Article.setAutomaticAds_wellFormed wellFormed _
  | headerTitle set =>
      exact .header (Header.setTitle_wellFormed (wellFormed_header.1 wellFormed) _ _ set)
  | headerKicker set =>
      exact .header (Header.setKicker_wellFormed (wellFormed_header.1 wellFormed) _ _ set)
  | captionTitle set =>
      exact .caption (Caption.setTitle_wellFormed (wellFormed_caption.1 wellFormed) _ _ set)
  | captionCredit set =>
      exact .caption (Caption.setCredit_wellFormed (wellFormed_caption.1 wellFormed) _ _ set)
  | source set =>
      exact .interactive (Interactive.setSource_wellFormed (wellFormed_interactive.1 wellFormed) _ _ set)
  | html set =>
      exact .interactive (Interactive.setHtml_wellFormed (wellFormed_interactive.1 wellFormed) _ _ set)
  | width =>
      exact .interactive (Interactive.setWidth_wellFormed (wellFormed_interactive.1 wellFormed) _)
  | height set =>
      exact .interactive (Interactive.setHeight_wellFormed (wellFormed_interactive.1 wellFormed) _ _ set)
  | url set => exact .video (Video.setUrl_wellFormed (wellFormed_video.1 wellFormed) _ _ set)
  | mediaType set => exact .video (Video.setMediaType_wellFormed (wellFormed_video.1 wellFormed) _ _ set)
  | presentation => exact .video (Video.setPresentation_wellFormed (wellFormed_video.1 wellFormed) _)
  | autoplay => exact .video (Video.disableAutoplay_wellFormed (wellFormed_video.1 wellFormed))
  | controls => exact .video (Video.enableControls_wellFormed (wellFormed_video.1 wellFormed))

/-- A conversion changes nothing but the view of the element. -/
theorem Converts.eq (converts : Converts element next) : next = element := by
  cases converts with
  | article converted | header converted | interactive converted | video converted =>
      cases element <;> cases converted
      rfl

theorem Takes.wellFormed (takes : Takes part element next) (partWellFormed : part.WellFormed)
    (wellFormed : element.WellFormed) : next.WellFormed := by
  cases takes with
  | header => exact Article.setHeader_wellFormed wellFormed (wellFormed_header.1 partWellFormed)
  | child added => exact Article.addChild_wellFormed wellFormed partWellFormed _ added
  | interactiveCaption =>
      have attached := wellFormed_caption.1 partWellFormed
      exact .interactive (Interactive.setCaption_wellFormed (wellFormed_interactive.1 wellFormed) attached)
  | videoCaption =>
      have attached := wellFormed_caption.1 partWellFormed
      exact .video (Video.setCaption_wellFormed (wellFormed_video.1 wellFormed) attached)
  | attached attaches =>
      exact attachCaption_wellFormed wellFormed (wellFormed_caption.1 partWellFormed) _ attaches

end Element

end ArticleRules
