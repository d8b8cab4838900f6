import ArticleRules.Proofs.Element.Ensures
import ArticleRules.Proofs.Text.Trim

/-
This file says when an element is well formed, and shows that every operation on elements keeps it so. Texts
are trimmed, each field holds only what suits it, and articles have interactive elements and videos as body.
-/

namespace ArticleRules

open Text (IsTrimmed)

/-- What a field holds, if it holds anything, has a property. -/
def IfSet (property : α → Prop) (field : Option α) : Prop :=
  ∀ value, field = some value → property value

section IfSet

variable {property : α → Prop} {value : α}

@[simp] theorem ifSet_none : IfSet property none := by
  intro value set
  cases set

@[simp] theorem ifSet_some : IfSet property (some value) ↔ property value := by
  constructor
  · intro holds
    exact holds value rfl
  · intro holds other set
    cases set
    exact holds

end IfSet

/-- The texts of a header are trimmed. -/
structure Header.WellFormed (header : Header) : Prop where
  title : IfSet IsTrimmed header.title
  kicker : IfSet IsTrimmed header.kicker

/-- The texts of a caption are trimmed. -/
structure Caption.WellFormed (caption : Caption) : Prop where
  title : IfSet IsTrimmed caption.title
  credit : IfSet IsTrimmed caption.credit

/-- The texts of an interactive element are trimmed, and its height is a positive number of 32 bits. -/
structure Interactive.WellFormed (interactive : Interactive) : Prop where
  source : IfSet IsTrimmed interactive.source
  html : IfSet IsTrimmed interactive.html
  height : IfSet (fun pixels => 1 ≤ pixels.toNat ∧ pixels.toNat < UInt32.size) interactive.height
  caption : IfSet Caption.WellFormed interactive.caption

/-- The texts of a video are trimmed, and its media type has a slash. -/
structure Video.WellFormed (video : Video) : Prop where
  url : IfSet IsTrimmed video.url
  mediaType : IfSet (fun text => IsTrimmed text ∧ '/' ∈ text.toList) video.mediaType
  caption : IfSet Caption.WellFormed video.caption

/-- The texts around the body of an article are trimmed, and its address is absolute. -/
structure Article.WellDescribed (article : Article) : Prop where
  canonicalUrl : IfSet (fun url => IsTrimmed url ∧ Address.check url = .ok ()) article.canonicalUrl
  charset : IfSet IsTrimmed article.charset
  markupVersion : IfSet IsTrimmed article.markupVersion
  header : IfSet Header.WellFormed article.header

/-- An element is well formed if all fields of it and of its parts hold what suits them. -/
inductive Element.WellFormed : Element → Prop where
  | article {content : Article} (described : content.WellDescribed)
      (inBody : ∀ child ∈ content.children, child.kind = .interactive ∨ child.kind = .video)
      (children : ∀ child ∈ content.children, WellFormed child) : WellFormed (.article content)
  | header {content : Header} (wellFormed : content.WellFormed) : WellFormed (.header content)
  | interactive {content : Interactive} (wellFormed : content.WellFormed) :
      WellFormed (.interactive content)
  | video {content : Video} (wellFormed : content.WellFormed) : WellFormed (.video content)
  | caption {content : Caption} (wellFormed : content.WellFormed) : WellFormed (.caption content)

/-- Text for a field is trimmed before it is stored. -/
theorem requireText_trimmed (field : Field) (value : String) :
    Ensures IsTrimmed (requireText field value) := by
  intro text required
  unfold requireText at required
  dsimp only at required
  split at required
  · cases required
  · rename_i some
    cases required
    exact Text.isTrimmed_trim (by simpa using some)

namespace Header

variable {header : Header}

theorem blank_wellFormed : WellFormed {} :=
  ⟨ifSet_none, ifSet_none⟩

theorem setTitle_wellFormed (wellFormed : header.WellFormed) (title : String) :
    Ensures WellFormed (header.setTitle title) :=
  (requireText_trimmed _ title).bind fun _ trimmed =>
    .pure { wellFormed with title := ifSet_some.2 trimmed }

theorem setKicker_wellFormed (wellFormed : header.WellFormed) (kicker : String) :
    Ensures WellFormed (header.setKicker kicker) :=
  (requireText_trimmed _ kicker).bind fun _ trimmed =>
    .pure { wellFormed with kicker := ifSet_some.2 trimmed }

end Header

namespace Caption

variable {caption : Caption}

theorem blank_wellFormed : WellFormed {} :=
  ⟨ifSet_none, ifSet_none⟩

theorem setTitle_wellFormed (wellFormed : caption.WellFormed) (title : String) :
    Ensures WellFormed (caption.setTitle title) :=
  (requireText_trimmed _ title).bind fun _ trimmed =>
    .pure { wellFormed with title := ifSet_some.2 trimmed }

theorem setCredit_wellFormed (wellFormed : caption.WellFormed) (credit : String) :
    Ensures WellFormed (caption.setCredit credit) :=
  (requireText_trimmed _ credit).bind fun _ trimmed =>
    .pure { wellFormed with credit := ifSet_some.2 trimmed }

end Caption

namespace Interactive

variable {interactive : Interactive}

theorem blank_wellFormed : WellFormed {} :=
  ⟨ifSet_none, ifSet_none, ifSet_none, ifSet_none⟩

theorem setSource_wellFormed (wellFormed : interactive.WellFormed) (source : String) :
    Ensures WellFormed (interactive.setSource source) :=
  (requireText_trimmed _ source).bind fun _ trimmed =>
    .pure { wellFormed with source := ifSet_some.2 trimmed }

theorem setHtml_wellFormed (wellFormed : interactive.WellFormed) (html : String) :
    Ensures WellFormed (interactive.setHtml html) :=
  (requireText_trimmed _ html).bind fun _ trimmed =>
    .pure { wellFormed with html := ifSet_some.2 trimmed }

theorem setWidth_wellFormed (wellFormed : interactive.WellFormed) (width : Width) :
    (interactive.setWidth width).WellFormed :=
  { wellFormed with }

/-- The height zero is refused, and all others are positive. -/
theorem setHeight_wellFormed (wellFormed : interactive.WellFormed) (pixels : UInt32) :
    Ensures WellFormed (interactive.setHeight pixels) := by
  unfold setHeight
  split
  · exact .throw _
  · rename_i someHeight
    have nonzero : pixels.toNat ≠ 0 := fun zero => someHeight (UInt32.toNat_inj.1 zero)
    have bounded := pixels.toNat_lt_size
    exact .pure { wellFormed with height := ifSet_some.2 ⟨by omega, bounded⟩ }

theorem setCaption_wellFormed {caption : Caption} (wellFormed : interactive.WellFormed)
    (attached : caption.WellFormed) : (interactive.setCaption caption).WellFormed :=
  { wellFormed with caption := ifSet_some.2 attached }

end Interactive

namespace Video

variable {video : Video}

theorem blank_wellFormed : WellFormed {} :=
  ⟨ifSet_none, ifSet_none, ifSet_none⟩

theorem setUrl_wellFormed (wellFormed : video.WellFormed) (url : String) :
    Ensures WellFormed (video.setUrl url) :=
  (requireText_trimmed _ url).bind fun _ trimmed =>
    .pure { wellFormed with url := ifSet_some.2 trimmed }

/-- A text is looked through for its slash after it is trimmed, so the slash is still there. -/
theorem setMediaType_wellFormed (wellFormed : video.WellFormed) (mediaType : String) :
    Ensures WellFormed (video.setMediaType mediaType) := by
  refine (requireText_trimmed _ mediaType).bind fun text trimmed => ?_
  split
  · rename_i slashed
    have slash : '/' ∈ text.toList := by simpa using slashed
    exact .pure { wellFormed with mediaType := ifSet_some.2 ⟨trimmed, slash⟩ }
  · exact .throw _

theorem setPresentation_wellFormed (wellFormed : video.WellFormed) (presentation : Presentation) :
    (video.setPresentation presentation).WellFormed :=
  { wellFormed with }

theorem setCaption_wellFormed {caption : Caption} (wellFormed : video.WellFormed)
    (attached : caption.WellFormed) : (video.setCaption caption).WellFormed :=
  { wellFormed with caption := ifSet_some.2 attached }

theorem disableAutoplay_wellFormed (wellFormed : video.WellFormed) : video.disableAutoplay.WellFormed :=
  { wellFormed with }

theorem enableControls_wellFormed (wellFormed : video.WellFormed) : video.enableControls.WellFormed :=
  { wellFormed with }

end Video

/-- The empty text is no absolute address. -/
theorem Address.ne_empty_of_check {text : String} (absolute : check text = .ok ()) : text ≠ "" := by
  rintro rfl
  have relative : check "" = .error .relative := by rfl
  rw [relative] at absolute
  cases absolute

/-- An article is well formed as an element. -/
abbrev Article.WellFormed (article : Article) : Prop :=
  Element.WellFormed (.article article)

namespace Article

variable {article : Article}

theorem blank_wellFormed : WellFormed {} := by
  have described : WellDescribed {} := ⟨ifSet_none, ifSet_none, ifSet_none, ifSet_none⟩
  refine .article described ?_ ?_
  · simp
  · simp

theorem wellDescribed (wellFormed : article.WellFormed) : article.WellDescribed := by
  cases wellFormed with
  | article described inBody children => exact described

/-- Whoever leaves the body alone has to care for the fields around it only. -/
theorem wellFormed_of_same_children {next : Article} (wellFormed : article.WellFormed)
    (described : next.WellDescribed) (same : next.children = article.children) : next.WellFormed := by
  cases wellFormed with
  | article _ inBody children =>
      rw [← same] at inBody children
      exact .article described inBody children

/-- The address is trimmed before it is checked, and no address is empty. -/
theorem setCanonicalUrl_wellFormed (wellFormed : article.WellFormed) (url : String) :
    Ensures WellFormed (article.setCanonicalUrl url) := by
  unfold setCanonicalUrl
  dsimp only
  split
  · rename_i absolute
    have trimmed := Text.isTrimmed_trim (Address.ne_empty_of_check absolute)
    have described := wellDescribed wellFormed
    refine .pure (wellFormed_of_same_children wellFormed ?_ rfl)
    exact { described with canonicalUrl := ifSet_some.2 ⟨trimmed, absolute⟩ }
  · exact .throw _

theorem setCharset_wellFormed (wellFormed : article.WellFormed) (charset : String) :
    Ensures WellFormed (article.setCharset charset) := by
  refine (requireText_trimmed _ charset).bind fun text trimmed => ?_
  have described := wellDescribed wellFormed
  refine .pure (wellFormed_of_same_children wellFormed ?_ rfl)
  exact { described with charset := ifSet_some.2 trimmed }

theorem setMarkupVersion_wellFormed (wellFormed : article.WellFormed) (version : String) :
    Ensures WellFormed (article.setMarkupVersion version) := by
  refine (requireText_trimmed _ version).bind fun text trimmed => ?_
  have described := wellDescribed wellFormed
  refine .pure (wellFormed_of_same_children wellFormed ?_ rfl)
  exact { described with markupVersion := ifSet_some.2 trimmed }

theorem setAutomaticAds_wellFormed (wellFormed : article.WellFormed) (enabled : Bool) :
    (article.setAutomaticAds enabled).WellFormed := by
  have described := wellDescribed wellFormed
  exact wellFormed_of_same_children wellFormed { described with } rfl

theorem setHeader_wellFormed {header : Header} (wellFormed : article.WellFormed)
    (attached : header.WellFormed) : (article.setHeader header).WellFormed := by
  have described := wellDescribed wellFormed
  refine wellFormed_of_same_children wellFormed ?_ rfl
  exact { described with header := ifSet_some.2 attached }

/-- The body takes no elements of other kinds. -/
theorem addChild_wellFormed {child : Element} (wellFormed : article.WellFormed)
    (added : child.WellFormed) : Ensures WellFormed (article.addChild child) := by
  intro next succeeded
  obtain ⟨fits, rfl⟩ := addChild_eq_ok succeeded
  cases wellFormed with
  | article described inBody children =>
      refine .article { described with } (fun element member => ?_) fun element member => ?_
      · rcases List.mem_append.1 member with before | last
        · exact inBody element before
        · rw [List.mem_singleton.1 last]
          exact fits
      · rcases List.mem_append.1 member with before | last
        · exact children element before
        · rw [List.mem_singleton.1 last]
          exact added

end Article

namespace Element

@[simp] theorem wellFormed_header {content : Header} :
    (header content).WellFormed ↔ content.WellFormed :=
  ⟨fun | .header wellFormed => wellFormed, .header⟩

@[simp] theorem wellFormed_interactive {content : Interactive} :
    (interactive content).WellFormed ↔ content.WellFormed :=
  ⟨fun | .interactive wellFormed => wellFormed, .interactive⟩

@[simp] theorem wellFormed_video {content : Video} : (video content).WellFormed ↔ content.WellFormed :=
  ⟨fun | .video wellFormed => wellFormed, .video⟩

@[simp] theorem wellFormed_caption {content : Caption} :
    (caption content).WellFormed ↔ content.WellFormed :=
  ⟨fun | .caption wellFormed => wellFormed, .caption⟩

/-- A blank element is well formed, because nothing in it is set. -/
theorem blank_wellFormed (kind : Kind) : (blank kind).WellFormed := by
  cases kind with
  | article => exact Article.blank_wellFormed
  | header => exact .header Header.blank_wellFormed
  | interactive => exact .interactive Interactive.blank_wellFormed
  | video => exact .video Video.blank_wellFormed
  | caption => exact .caption Caption.blank_wellFormed

theorem attachCaption_wellFormed {element : Element} {attached : Caption}
    (wellFormed : element.WellFormed) (attachedWellFormed : attached.WellFormed) :
    Ensures WellFormed (element.attachCaption attached) := by
  cases wellFormed with
  | interactive wellFormed =>
      exact .pure (.interactive (Interactive.setCaption_wellFormed wellFormed attachedWellFormed))
  | video wellFormed =>
      exact .pure (.video (Video.setCaption_wellFormed wellFormed attachedWellFormed))
  | article | header | caption => exact .throw _

end Element

end ArticleRules
