import ArticleRules.Proofs.Element.Edit
import ArticleRules.Proofs.Element.Ensures

/-
This file orders the states of an article. An article grows if it keeps its body and loses no field, and if
everything that is added to the body is complete. Ads that are switched off stay off.
-/

namespace ArticleRules

/-- An interactive element is complete with a width and something to show. -/
def Interactive.IsComplete (interactive : Interactive) : Prop :=
  interactive.width.isSome ∧ (interactive.source.isSome ∨ interactive.html.isSome)

/-- A video is complete with an address. -/
def Video.IsComplete (video : Video) : Prop :=
  video.url.isSome

namespace Element

/-- Only interactive elements and videos are complete elements of a body. -/
def IsComplete : Element → Prop
  | interactive content => content.IsComplete
  | video content => content.IsComplete
  | article _ | header _ | caption _ => False

/-- An edit can only set the caption of an interactive element or a video. -/
theorem IsComplete.edited {element : Element} (complete : element.IsComplete) (edit : Edit) :
    (edit.apply element).IsComplete := by
  cases element with
  | interactive | video => exact complete
  | article | header | caption => cases complete

/-- The article that an element is, if it is one. -/
def article? : Element → Option Article
  | article content => some content
  | header _ | interactive _ | video _ | caption _ => none

theorem article?_eq_none {element : Element} (other : element.kind ≠ .article) :
    element.article? = none := by
  cases element with
  | article => exact absurd rfl other
  | header | interactive | video | caption => rfl

/-- The number of elements in the body of an article. Other elements have no body. -/
def bodySize : Element → Nat
  | article content => content.children.length
  | header _ | interactive _ | video _ | caption _ => 0

end Element

namespace Article

def title? (article : Article) : Option String :=
  article.header.bind (·.title)

def kicker? (article : Article) : Option String :=
  article.header.bind (·.kicker)

/-- An article grows into a later one that adds complete elements to its body and keeps all fields set. -/
structure GrowsInto (earlier later : Article) : Prop where
  children : ∃ added, later.children = earlier.children ++ added ∧ ∀ child ∈ added, child.IsComplete
  canonicalUrl : earlier.canonicalUrl.isSome → later.canonicalUrl.isSome
  charset : earlier.charset.isSome → later.charset.isSome
  markupVersion : earlier.markupVersion.isSome → later.markupVersion.isSome
  header : earlier.header.isSome → later.header.isSome
  title : earlier.title?.isSome → later.title?.isSome
  kicker : earlier.kicker?.isSome → later.kicker?.isSome
  automaticAds : earlier.automaticAds = false → later.automaticAds = false

namespace GrowsInto

variable {earlier article later : Article}

theorem refl (article : Article) : article.GrowsInto article where
  children := ⟨[], by simp⟩
  canonicalUrl := id
  charset := id
  markupVersion := id
  header := id
  title := id
  kicker := id
  automaticAds := id

theorem trans (first : earlier.GrowsInto article) (second : article.GrowsInto later) :
    earlier.GrowsInto later where
  children := by
    obtain ⟨added, body, complete⟩ := first.children
    obtain ⟨more, laterBody, moreComplete⟩ := second.children
    refine ⟨added ++ more, ?_, fun child member => ?_⟩
    · rw [laterBody, body, List.append_assoc]
    · exact (List.mem_append.1 member).elim (complete child) (moreComplete child)
  canonicalUrl set := second.canonicalUrl (first.canonicalUrl set)
  charset set := second.charset (first.charset set)
  markupVersion set := second.markupVersion (first.markupVersion set)
  header set := second.header (first.header set)
  title set := second.title (first.title set)
  kicker set := second.kicker (first.kicker set)
  automaticAds off := second.automaticAds (first.automaticAds off)

/-- An article that has grown still does if its address is replaced. -/
theorem setCanonicalUrl (grown : earlier.GrowsInto article) (url : String) :
    Ensures earlier.GrowsInto (article.setCanonicalUrl url) := by
  unfold Article.setCanonicalUrl
  dsimp only
  split
  · exact .pure { grown with canonicalUrl := fun _ => rfl }
  · exact .throw _

theorem setCharset (grown : earlier.GrowsInto article) (charset : String) :
    Ensures earlier.GrowsInto (article.setCharset charset) :=
  .after fun _ => .pure { grown with charset := fun _ => rfl }

theorem setMarkupVersion (grown : earlier.GrowsInto article) (version : String) :
    Ensures earlier.GrowsInto (article.setMarkupVersion version) :=
  .after fun _ => .pure { grown with markupVersion := fun _ => rfl }

theorem stopAds (grown : earlier.GrowsInto article) :
    earlier.GrowsInto (article.setAutomaticAds false) :=
  { grown with automaticAds := fun _ => rfl }

/-- The title of a header that covers another is missing only if both titles are. -/
theorem covering (newer : Header) (article : Article) :
    article.GrowsInto (article.setHeader (newer.covering (article.header.getD {}))) where
  children := ⟨[], by simp [setHeader]⟩
  canonicalUrl := id
  charset := id
  markupVersion := id
  header _ := rfl
  title set := by
    cases present : article.header <;>
      simp_all [title?, Article.setHeader, Header.covering, Option.isSome_or]
  kicker set := by
    cases present : article.header <;>
      simp_all [kicker?, Article.setHeader, Header.covering, Option.isSome_or]
  automaticAds := id

theorem child (article : Article) {child : Element} (complete : child.IsComplete) :
    article.GrowsInto { article with children := article.children ++ [child] } :=
  { refl article with children := ⟨[child], rfl, by simpa using complete⟩ }

end GrowsInto

end Article

end ArticleRules
