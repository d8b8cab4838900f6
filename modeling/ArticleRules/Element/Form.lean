import ArticleRules.Element.Basic
import ArticleRules.Json.Value

/-
This file gives elements a JSON form, in which fields without a value are left out, and compares
elements.
-/

namespace ArticleRules

def Header.members (header : Header) : List (String × Json) :=
  Json.member? "title" (header.title.map .text) ++ Json.member? "kicker" (header.kicker.map .text)

def Caption.members (caption : Caption) : List (String × Json) :=
  Json.member? "title" (caption.title.map .text) ++ Json.member? "credit" (caption.credit.map .text)

def Interactive.members (interactive : Interactive) : List (String × Json) :=
  Json.member? "source" (interactive.source.map .text) ++
    Json.member? "html" (interactive.html.map .text) ++
    Json.member? "width" (interactive.width.map fun width => .text width.name) ++
    Json.member? "height" (interactive.height.map fun height => .number height.toNat) ++
    Json.member? "caption" (interactive.caption.map fun caption => .object caption.members)

def Video.members (video : Video) : List (String × Json) :=
  Json.member? "url" (video.url.map .text) ++
    Json.member? "content_type" (video.mediaType.map .text) ++
    Json.member? "presentation" (video.presentation.map fun presentation => .text presentation.name) ++
    Json.member? "caption" (video.caption.map fun caption => .object caption.members) ++
    [("autoplay", .flag video.autoplay), ("controls", .flag video.controls)]

namespace Element

mutual

/-- The form of an element names its kind beside its fields. -/
def form : Element → Json
  | article content => .object (("kind", .text Kind.article.name) ::
      Json.member? "canonical_url" (content.canonicalUrl.map .text) ++
      Json.member? "charset" (content.charset.map .text) ++
      Json.member? "markup_version" (content.markupVersion.map .text) ++
      [("auto_ad_placement", .flag content.automaticAds)] ++
      Json.member? "header" (content.header.map fun header => .object header.members) ++
      [("children", .list (forms content.children))])
  | header content => .object (("kind", .text Kind.header.name) :: content.members)
  | interactive content => .object (("kind", .text Kind.interactive.name) :: content.members)
  | video content => .object (("kind", .text Kind.video.name) :: content.members)
  | caption content => .object (("kind", .text Kind.caption.name) :: content.members)

def forms : List Element → List Json
  | [] => []
  | element :: rest => form element :: forms rest

end

mutual

/-- Elements are the same if they agree in every field. -/
def same : Element → Element → Bool
  | article left, article right =>
    left.canonicalUrl == right.canonicalUrl && left.charset == right.charset &&
      left.markupVersion == right.markupVersion && left.automaticAds == right.automaticAds &&
      left.header == right.header && allSame left.children right.children
  | header left, header right => left == right
  | interactive left, interactive right => left == right
  | video left, video right => left == right
  | caption left, caption right => left == right
  | _, _ => false

def allSame : List Element → List Element → Bool
  | [], [] => true
  | left :: lefts, right :: rights => same left right && allSame lefts rights
  | _, _ => false

end

end Element

end ArticleRules
