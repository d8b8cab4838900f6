import ArticleRules.Address.Absolute
import ArticleRules.Error
import ArticleRules.Text.Blank

/-
This file defines the elements of an article and the operations that build them. Every operation that
stores text trims it, and refuses values that the field cannot hold.
-/

namespace ArticleRules

/-- Text for a field is trimmed and must not be blank. -/
def requireText (field : Field) (value : String) : Except Error String :=
  let trimmed := Text.trim value
  if trimmed == "" then .error (.invalidValue field value .blank) else .ok trimmed

structure Header where
  title : Option String := none
  kicker : Option String := none
  deriving DecidableEq, Repr

namespace Header

def setTitle (header : Header) (title : String) : Except Error Header := do
  return { header with title := some (← requireText .headerTitle title) }

def setKicker (header : Header) (kicker : String) : Except Error Header := do
  return { header with kicker := some (← requireText .headerKicker kicker) }

def isEmpty (header : Header) : Bool :=
  header.title.isNone && header.kicker.isNone

end Header

structure Caption where
  title : Option String := none
  credit : Option String := none
  deriving DecidableEq, Repr

namespace Caption

def setTitle (caption : Caption) (title : String) : Except Error Caption := do
  return { caption with title := some (← requireText .captionTitle title) }

def setCredit (caption : Caption) (credit : String) : Except Error Caption := do
  return { caption with credit := some (← requireText .captionCredit credit) }

end Caption

/-- Reads the name of a width as it stands. -/
def Width.read (name : String) : Except Error Width :=
  match Width.ofName? name with
  | some width => .ok width
  | none => .error (.invalidValue .interactiveWidth name .unknownWidth)

/-- Reads the name of a presentation after trimming it. -/
def Presentation.read (name : String) : Except Error Presentation :=
  match Presentation.ofName? (Text.trim name) with
  | some presentation => .ok presentation
  | none => .error (.invalidValue .videoPresentation name .unknownPresentation)

/-- Reads the name of a kind as it stands. -/
def Kind.read (name : String) : Except Error Kind :=
  match Kind.ofName? name with
  | some kind => .ok kind
  | none => .error (.misconfigured (.unknownContext name))

/-- Embedded content that runs in the page: markup, an address, or both. -/
structure Interactive where
  source : Option String := none
  html : Option String := none
  width : Option Width := none
  height : Option UInt32 := none
  caption : Option Caption := none
  deriving DecidableEq, Repr

namespace Interactive

def setSource (interactive : Interactive) (source : String) : Except Error Interactive := do
  return { interactive with source := some (← requireText .interactiveUrl source) }

def setHtml (interactive : Interactive) (html : String) : Except Error Interactive := do
  return { interactive with html := some (← requireText .interactiveIframe html) }

def setWidth (interactive : Interactive) (width : Width) : Interactive :=
  { interactive with width := some width }

/-- A height of no pixels is refused. -/
def setHeight (interactive : Interactive) (pixels : UInt32) : Except Error Interactive :=
  if pixels = 0 then .error (.invalidValue .interactiveHeight "0" .notPositive)
  else .ok { interactive with height := some pixels }

def setCaption (interactive : Interactive) (caption : Caption) : Interactive :=
  { interactive with caption := some caption }

end Interactive

/-- A video plays by itself and shows no controls unless told otherwise. -/
structure Video where
  url : Option String := none
  mediaType : Option String := none
  presentation : Option Presentation := none
  caption : Option Caption := none
  autoplay : Bool := true
  controls : Bool := false
  deriving DecidableEq, Repr

namespace Video

def setUrl (video : Video) (url : String) : Except Error Video := do
  return { video with url := some (← requireText .videoUrl url) }

/-- A media type has a slash between its two parts. -/
def setMediaType (video : Video) (mediaType : String) : Except Error Video := do
  let trimmed ← requireText .videoType mediaType
  if trimmed.toList.contains '/' then return { video with mediaType := some trimmed }
  else throw (.invalidValue .videoType trimmed .notMediaType)

def setPresentation (video : Video) (presentation : Presentation) : Video :=
  { video with presentation := some presentation }

def setCaption (video : Video) (caption : Caption) : Video :=
  { video with caption := some caption }

def disableAutoplay (video : Video) : Video :=
  { video with autoplay := false }

def enableControls (video : Video) : Video :=
  { video with controls := true }

end Video

/-- An article is described before its body elements are known. -/
structure ArticleOf (Child : Type) where
  canonicalUrl : Option String := none
  charset : Option String := none
  markupVersion : Option String := none
  automaticAds : Bool := true
  header : Option Header := none
  children : List Child := []

inductive Element where
  | article (content : ArticleOf Element)
  | header (content : Header)
  | interactive (content : Interactive)
  | video (content : Video)
  | caption (content : Caption)

abbrev Article := ArticleOf Element

namespace Element

def kind : Element → Kind
  | article _ => .article
  | header _ => .header
  | interactive _ => .interactive
  | video _ => .video
  | caption _ => .caption

/-- An element of the given kind with nothing set. -/
def blank : Kind → Element
  | .article => article {}
  | .header => header {}
  | .interactive => interactive {}
  | .video => video {}
  | .caption => caption {}

instance : Inhabited Element :=
  ⟨blank .article⟩

def expect (expected : Kind) (found : Element) : Error :=
  .contextMismatch expected found.kind

def asArticle : Element → Except Error Article
  | article content => .ok content
  | other => .error (expect .article other)

def asHeader : Element → Except Error Header
  | header content => .ok content
  | other => .error (expect .header other)

def asInteractive : Element → Except Error Interactive
  | interactive content => .ok content
  | other => .error (expect .interactive other)

def asVideo : Element → Except Error Video
  | video content => .ok content
  | other => .error (expect .video other)

/-- Only interactive elements and videos have a caption. -/
def attachCaption (element : Element) (attached : Caption) : Except Error Element :=
  match element with
  | interactive content => .ok (interactive (content.setCaption attached))
  | video content => .ok (video (content.setCaption attached))
  | other => .error (expect .interactive other)

end Element

namespace Article

/-- The address of an article is absolute; it is trimmed but otherwise stored as given. -/
def setCanonicalUrl (article : Article) (url : String) : Except Error Article :=
  let trimmed := Text.trim url
  match Address.check trimmed with
  | .ok () => .ok { article with canonicalUrl := some trimmed }
  | .error fault => .error (.invalidValue .canonical trimmed (.address fault))

def setCharset (article : Article) (charset : String) : Except Error Article := do
  return { article with charset := some (← requireText .charset charset) }

def setMarkupVersion (article : Article) (version : String) : Except Error Article := do
  return { article with markupVersion := some (← requireText .markupVersion version) }

def setAutomaticAds (article : Article) (enabled : Bool) : Article :=
  { article with automaticAds := enabled }

def setHeader (article : Article) (header : Header) : Article :=
  { article with header := some header }

/-- Only interactive elements and videos stand in the body of an article. -/
def addChild (article : Article) (child : Element) : Except Error Article :=
  match child.kind with
  | .interactive | .video => .ok { article with children := article.children ++ [child] }
  | found => .error (.invalidValue .children found.name .notInBody)

end Article

end ArticleRules
