import ArticleRules.Proofs.Element.Flaw

/-
This file describes changes of elements apart from the elements that are changed. An edit says which fields
are set, and to what, without a look at what they held before.
-/

namespace ArticleRules

namespace Header

/-- A header that takes precedence over another where it has a text. -/
def covering (newer older : Header) : Header :=
  ⟨newer.title.or older.title, newer.kicker.or older.kicker⟩

/-- A header that is set takes precedence over one that may be missing, with neither title nor kicker. -/
def coveringMissing (newer older : Option Header) : Option Header :=
  match newer with
  | some header => some (header.covering (older.getD {}))
  | none => older

theorem covering_assoc (newest newer older : Header) :
    (newest.covering newer).covering older = newest.covering (newer.covering older) := by
  simp only [covering, Option.or_assoc]

theorem coveringMissing_covering (newer older : Option Header) (header : Header) :
    ((coveringMissing newer older).getD {}).covering header =
      (newer.getD {}).covering ((older.getD {}).covering header) := by
  cases newer with
  | none => rfl
  | some newest => exact covering_assoc newest (older.getD {}) header

theorem coveringMissing_assoc (newest newer older : Option Header) :
    coveringMissing (coveringMissing newest newer) older =
      coveringMissing newest (coveringMissing newer older) := by
  cases newest with
  | none => rfl
  | some header =>
      cases newer with
      | none => exact congrArg some (covering_assoc header {} _)
      | some newer => exact congrArg some (covering_assoc header newer _)

end Header

/-- An edit sets some fields of an element. In an article it can set parts of the header, which exists from
then on, switch the automatic ads off, and add elements to the body. -/
structure Edit where
  canonicalUrl : Option String := none
  charset : Option String := none
  markupVersion : Option String := none
  stopsAds : Bool := false
  header : Option Header := none
  added : List Element := []
  caption : Option Caption := none

namespace Edit

def applyToArticle (edit : Edit) (article : Article) : Article where
  canonicalUrl := edit.canonicalUrl.or article.canonicalUrl
  charset := edit.charset.or article.charset
  markupVersion := edit.markupVersion.or article.markupVersion
  automaticAds := article.automaticAds && !edit.stopsAds
  header := Header.coveringMissing edit.header article.header
  children := article.children ++ edit.added

/-- An edit changes an element by the fields that it sets. All other fields stay as they are. -/
def apply (edit : Edit) : Element → Element
  | .article article => .article (edit.applyToArticle article)
  | .header header => .header ((edit.header.getD {}).covering header)
  | .interactive interactive =>
    .interactive { interactive with caption := edit.caption.or interactive.caption }
  | .video video => .video { video with caption := edit.caption.or video.caption }
  | .caption caption => .caption caption

/-- The edit that sets what two edits set one after the other. -/
def andThen (earlier later : Edit) : Edit where
  canonicalUrl := later.canonicalUrl.or earlier.canonicalUrl
  charset := later.charset.or earlier.charset
  markupVersion := later.markupVersion.or earlier.markupVersion
  stopsAds := earlier.stopsAds || later.stopsAds
  header := Header.coveringMissing later.header earlier.header
  added := earlier.added ++ later.added
  caption := later.caption.or earlier.caption

@[simp] theorem kind_apply (edit : Edit) (element : Element) :
    (edit.apply element).kind = element.kind := by
  cases element <;> rfl

theorem applyToArticle_blank (article : Article) : applyToArticle {} article = article := by
  simp [applyToArticle, Header.coveringMissing]

theorem apply_blank (element : Element) : apply {} element = element := by
  cases element with
  | article article => exact congrArg Element.article (applyToArticle_blank article)
  | header | interactive | video | caption => rfl

theorem applyToArticle_andThen (earlier later : Edit) (article : Article) :
    (earlier.andThen later).applyToArticle article =
      later.applyToArticle (earlier.applyToArticle article) := by
  simp only [applyToArticle, andThen, Option.or_assoc, Bool.not_or, Bool.and_assoc, List.append_assoc,
    Header.coveringMissing_assoc]

theorem apply_andThen (earlier later : Edit) (element : Element) :
    (earlier.andThen later).apply element = later.apply (earlier.apply element) := by
  cases element with
  | article article => exact congrArg Element.article (applyToArticle_andThen earlier later article)
  | header header =>
      have headers := Header.coveringMissing_covering later.header earlier.header header
      exact congrArg Element.header headers
  | interactive | video => simp only [apply, andThen, Option.or_assoc]
  | caption caption => rfl

end Edit

end ArticleRules
