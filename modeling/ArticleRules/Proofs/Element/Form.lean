import ArticleRules.Element.Form
import ArticleRules.Proofs.Json.Same

/-
This file reads elements back from their JSON form. The form determines the element, in whatever order the
members of its objects are.
-/

namespace ArticleRules

open Json

namespace Header

def ofMembers? (members : List (String × Json)) : Option Header := do
  return { title := ← optional? asText? "title" members
           kicker := ← optional? asText? "kicker" members }

def ofJson? : Json → Option Header
  | .object members => ofMembers? members
  | _ => none

end Header

namespace Caption

def ofMembers? (members : List (String × Json)) : Option Caption := do
  return { title := ← optional? asText? "title" members
           credit := ← optional? asText? "credit" members }

def ofJson? : Json → Option Caption
  | .object members => ofMembers? members
  | _ => none

end Caption

def Interactive.ofMembers? (members : List (String × Json)) : Option Interactive := do
  return { source := ← optional? asText? "source" members
           html := ← optional? asText? "html" members
           width := ← optional? (asNamed? Width.ofName?) "width" members
           height := ← optional? asPixels? "height" members
           caption := ← optional? Caption.ofJson? "caption" members }

def Video.ofMembers? (members : List (String × Json)) : Option Video := do
  return { url := ← optional? asText? "url" members
           mediaType := ← optional? asText? "content_type" members
           presentation := ← optional? (asNamed? Presentation.ofName?) "presentation" members
           caption := ← optional? Caption.ofJson? "caption" members
           autoplay := ← required? asFlag? "autoplay" members
           controls := ← required? asFlag? "controls" members }

/-- The article with the given children that the other members describe. -/
def Article.ofMembers? (members : List (String × Json)) (children : List Element) : Option Article := do
  return { canonicalUrl := ← optional? asText? "canonical_url" members
           charset := ← optional? asText? "charset" members
           markupVersion := ← optional? asText? "markup_version" members
           automaticAds := ← required? asFlag? "auto_ad_placement" members
           header := ← optional? Header.ofJson? "header" members
           children }

namespace Element

/-- The element of the given kind, with the children that an article needs. -/
def ofMembers? (members : List (String × Json)) (children : Option (List Element)) :
    Kind → Option Element
  | .article => do return .article (← Article.ofMembers? members (← children))
  | .header => do return .header (← Header.ofMembers? members)
  | .interactive => do return .interactive (← Interactive.ofMembers? members)
  | .video => do return .video (← Video.ofMembers? members)
  | .caption => do return .caption (← Caption.ofMembers? members)

mutual

/-- Reads an element of the kind that its form names. -/
def ofJson? : Json → Option Element
  | .object members => do
    ofMembers? members (childrenAmong? members) (← required? (asNamed? Kind.ofName?) "kind" members)
  | _ => none

/-- The children of an article are a member of its form. -/
def childrenAmong? : List (String × Json) → Option (List Element)
  | [] => none
  | (name, value) :: rest => if name = "children" then listed? value else childrenAmong? rest

def listed? : Json → Option (List Element)
  | .list items => allOf? items
  | _ => none

def allOf? : List Json → Option (List Element)
  | [] => some []
  | item :: rest => do return (← ofJson? item) :: (← allOf? rest)

end

theorem childrenAmong?_eq (members : List (String × Json)) :
    childrenAmong? members = required? listed? "children" members := by
  induction members with
  | nil => rfl
  | cons entry rest ih =>
      obtain ⟨name, value⟩ := entry
      rw [childrenAmong?, ih, required?, required?, List.lookup_cons]
      by_cases same : name = "children"
      · rw [if_pos same, same, beq_self_eq_true, Option.bind_some]
      · rw [if_neg same, beq_eq_false_iff_ne.2 (Ne.symm same)]

theorem allOf?_congr {items others : List Json} (length : items.length = others.length)
    (each : ∀ (index : Nat) (left : index < items.length) (right : index < others.length),
      ofJson? items[index] = ofJson? others[index]) :
    allOf? items = allOf? others := by
  induction items generalizing others with
  | nil =>
      cases List.eq_nil_of_length_eq_zero length.symm
      rfl
  | cons item rest ih =>
      cases others with
      | nil => cases length
      | cons other others =>
          have first : ofJson? item = ofJson? other := each 0 (by simp) (by simp)
          have later : allOf? rest = allOf? others := by
            refine ih (Nat.succ.inj length) fun index left right => ?_
            exact each (index + 1) (Nat.succ_lt_succ left) (Nat.succ_lt_succ right)
          rw [allOf?, allOf?, first, later]

end Element

section ofMembers?

variable {members others : List (String × Json)}

theorem Header.ofMembers?_of_same (same : Same (.object members) (.object others)) :
    Header.ofMembers? members = Header.ofMembers? others := by
  simp only [Header.ofMembers?, optional?_of_same asText?_respects same]

theorem Header.ofJson?_respects : Respects Header.ofJson? := by
  intro left right same
  cases same with
  | object names each => exact Header.ofMembers?_of_same (.object names each)
  | _ => rfl

theorem Caption.ofMembers?_of_same (same : Same (.object members) (.object others)) :
    Caption.ofMembers? members = Caption.ofMembers? others := by
  simp only [Caption.ofMembers?, optional?_of_same asText?_respects same]

theorem Caption.ofJson?_respects : Respects Caption.ofJson? := by
  intro left right same
  cases same with
  | object names each => exact Caption.ofMembers?_of_same (.object names each)
  | _ => rfl

theorem Interactive.ofMembers?_of_same (same : Same (.object members) (.object others)) :
    Interactive.ofMembers? members = Interactive.ofMembers? others := by
  simp only [Interactive.ofMembers?, optional?_of_same asText?_respects same,
    optional?_of_same (asNamed?_respects Width.ofName?) same,
    optional?_of_same asPixels?_respects same,
    optional?_of_same Caption.ofJson?_respects same]

theorem Video.ofMembers?_of_same (same : Same (.object members) (.object others)) :
    Video.ofMembers? members = Video.ofMembers? others := by
  simp only [Video.ofMembers?, optional?_of_same asText?_respects same,
    optional?_of_same (asNamed?_respects Presentation.ofName?) same,
    optional?_of_same Caption.ofJson?_respects same, required?_of_same asFlag?_respects same]

theorem Article.ofMembers?_of_same (same : Same (.object members) (.object others))
    (children : List Element) :
    Article.ofMembers? members children = Article.ofMembers? others children := by
  simp only [Article.ofMembers?, optional?_of_same asText?_respects same,
    optional?_of_same Header.ofJson?_respects same, required?_of_same asFlag?_respects same]

end ofMembers?

namespace Element

theorem ofMembers?_of_same {members others : List (String × Json)}
    (same : Same (.object members) (.object others)) (children : Option (List Element)) :
    ofMembers? members children = ofMembers? others children := by
  funext kind
  cases kind with
  | article => simp only [ofMembers?, Article.ofMembers?_of_same same]
  | header => rw [ofMembers?, ofMembers?, Header.ofMembers?_of_same same]
  | interactive => rw [ofMembers?, ofMembers?, Interactive.ofMembers?_of_same same]
  | video => rw [ofMembers?, ofMembers?, Video.ofMembers?_of_same same]
  | caption => rw [ofMembers?, ofMembers?, Caption.ofMembers?_of_same same]

/-- An element is read alike from forms that are the same, and so are the children of an article. -/
theorem ofJson?_of_same {left right : Json} (same : Same left right) :
    ofJson? left = ofJson? right ∧ listed? left = listed? right := by
  induction same with
  | null | flag | number | text => exact ⟨rfl, rfl⟩
  | list length each ih =>
      refine ⟨rfl, allOf?_congr length fun index left right => (ih index left right).1⟩
  | @object members others names each ih =>
      have same : Same (.object members) (.object others) := .object names each
      refine ⟨?_, rfl⟩
      have children : childrenAmong? members = childrenAmong? others := by
        rw [childrenAmong?_eq, childrenAmong?_eq, required?, required?]
        rcases same.lookup_cases "children" with ⟨missing, missingToo⟩ | ⟨left, right, found, foundToo, _⟩
        · rw [missing, missingToo]
        · rw [found, foundToo, Option.bind_some, Option.bind_some, (ih _ _ _ found foundToo).2]
      rw [ofJson?, ofJson?, required?_of_same (asNamed?_respects Kind.ofName?) same, children,
        ofMembers?_of_same same]

end Element

theorem Json.asText?_text (value : String) : asText? (.text value) = some value := rfl

theorem Json.asFlag?_flag (value : Bool) : asFlag? (.flag value) = some value := rfl

theorem Json.asNamed?_width (width : Width) : asNamed? Width.ofName? (.text width.name) = some width := by
  cases width <;> rfl

theorem Json.asNamed?_presentation (presentation : Presentation) :
    asNamed? Presentation.ofName? (.text presentation.name) = some presentation := by
  cases presentation <;> rfl

theorem Json.asNamed?_kind (kind : Kind) : asNamed? Kind.ofName? (.text kind.name) = some kind := by
  cases kind <;> rfl

theorem Json.asPixels?_number (pixels : UInt32) : asPixels? (.number pixels.toNat) = some pixels := by
  have same : pixels.toNat.toUInt32 = pixels := UInt32.ofNat_toNat
  rw [asPixels?, if_pos pixels.toNat_lt_size, same]

theorem Header.ofMembers?_of_lookup {members : List (String × Json)} {header : Header}
    (title : members.lookup "title" = header.title.map .text)
    (kicker : members.lookup "kicker" = header.kicker.map .text) :
    Header.ofMembers? members = some header := by
  rw [Header.ofMembers?, optional?_of_lookup asText?_text title,
    optional?_of_lookup asText?_text kicker]
  rfl

theorem Header.ofJson?_members (header : Header) :
    Header.ofJson? (.object header.members) = some header := by
  apply Header.ofMembers?_of_lookup <;>
    simp [Header.members, List.lookup_append, lookup_member?]

theorem Header.ofMembers?_form (header : Header) (kind : Json) :
    Header.ofMembers? (("kind", kind) :: header.members) = some header := by
  apply Header.ofMembers?_of_lookup <;>
    simp [Header.members, List.lookup_cons, List.lookup_append, lookup_member?]

theorem Caption.ofMembers?_of_lookup {members : List (String × Json)} {caption : Caption}
    (title : members.lookup "title" = caption.title.map .text)
    (credit : members.lookup "credit" = caption.credit.map .text) :
    Caption.ofMembers? members = some caption := by
  rw [Caption.ofMembers?, optional?_of_lookup asText?_text title,
    optional?_of_lookup asText?_text credit]
  rfl

theorem Caption.ofJson?_members (caption : Caption) :
    Caption.ofJson? (.object caption.members) = some caption := by
  apply Caption.ofMembers?_of_lookup <;>
    simp [Caption.members, List.lookup_append, lookup_member?]

theorem Caption.ofMembers?_form (caption : Caption) (kind : Json) :
    Caption.ofMembers? (("kind", kind) :: caption.members) = some caption := by
  apply Caption.ofMembers?_of_lookup <;>
    simp [Caption.members, List.lookup_cons, List.lookup_append, lookup_member?]

theorem Interactive.ofMembers?_form (interactive : Interactive) (kind : Json) :
    Interactive.ofMembers? (("kind", kind) :: interactive.members) = some interactive := by
  have source : optional? asText? "source" (("kind", kind) :: interactive.members) =
      some interactive.source := optional?_of_lookup asText?_text
    (by simp [Interactive.members, List.lookup_cons, List.lookup_append, lookup_member?])
  have html : optional? asText? "html" (("kind", kind) :: interactive.members) =
      some interactive.html := optional?_of_lookup asText?_text
    (by simp [Interactive.members, List.lookup_cons, List.lookup_append, lookup_member?])
  have width : optional? (asNamed? Width.ofName?) "width" (("kind", kind) :: interactive.members) =
      some interactive.width := optional?_of_lookup asNamed?_width
    (by simp [Interactive.members, List.lookup_cons, List.lookup_append, lookup_member?])
  have height : optional? asPixels? "height" (("kind", kind) :: interactive.members) =
      some interactive.height := optional?_of_lookup asPixels?_number
    (by simp [Interactive.members, List.lookup_cons, List.lookup_append, lookup_member?])
  have caption : optional? Caption.ofJson? "caption" (("kind", kind) :: interactive.members) =
      some interactive.caption := optional?_of_lookup Caption.ofJson?_members
    (by simp [Interactive.members, List.lookup_cons, List.lookup_append, lookup_member?])
  rw [Interactive.ofMembers?, source, html, width, height, caption]
  rfl

theorem Video.ofMembers?_form (video : Video) (kind : Json) :
    Video.ofMembers? (("kind", kind) :: video.members) = some video := by
  have url : optional? asText? "url" (("kind", kind) :: video.members) = some video.url :=
    optional?_of_lookup asText?_text
      (by simp [Video.members, List.lookup_cons, List.lookup_append, lookup_member?])
  have mediaType : optional? asText? "content_type" (("kind", kind) :: video.members) =
      some video.mediaType := optional?_of_lookup asText?_text
    (by simp [Video.members, List.lookup_cons, List.lookup_append, lookup_member?])
  have presentation : optional? (asNamed? Presentation.ofName?) "presentation"
      (("kind", kind) :: video.members) = some video.presentation :=
    optional?_of_lookup asNamed?_presentation
      (by simp [Video.members, List.lookup_cons, List.lookup_append, lookup_member?])
  have caption : optional? Caption.ofJson? "caption" (("kind", kind) :: video.members) =
      some video.caption := optional?_of_lookup Caption.ofJson?_members
    (by simp [Video.members, List.lookup_cons, List.lookup_append, lookup_member?])
  have autoplay : required? asFlag? "autoplay" (("kind", kind) :: video.members) =
      some video.autoplay := required?_of_lookup asFlag?_flag
    (by simp [Video.members, List.lookup_cons, List.lookup_append, lookup_member?])
  have controls : required? asFlag? "controls" (("kind", kind) :: video.members) =
      some video.controls := required?_of_lookup asFlag?_flag
    (by simp [Video.members, List.lookup_cons, List.lookup_append, lookup_member?])
  rw [Video.ofMembers?, url, mediaType, presentation, caption, autoplay, controls]
  rfl

namespace Article

/-- The members of the form of an article whose children have the given forms. -/
def members (article : Article) (children : List Json) : List (String × Json) :=
  ("kind", .text Kind.article.name) ::
    Json.member? "canonical_url" (article.canonicalUrl.map .text) ++
    Json.member? "charset" (article.charset.map .text) ++
    Json.member? "markup_version" (article.markupVersion.map .text) ++
    [("auto_ad_placement", .flag article.automaticAds)] ++
    Json.member? "header" (article.header.map fun header => .object header.members) ++
    [("children", .list children)]

theorem form_eq (article : Article) :
    Element.form (.article article) = .object (article.members (Element.forms article.children)) := by
  rw [Element.form, members]

theorem ofMembers?_form (article : Article) (children : List Json) (elements : List Element) :
    Article.ofMembers? (article.members children) elements =
      some { article with children := elements } := by
  have canonicalUrl : optional? asText? "canonical_url" (article.members children) =
      some article.canonicalUrl := optional?_of_lookup asText?_text
    (by simp [members, List.lookup_cons, List.lookup_append, lookup_member?])
  have charset : optional? asText? "charset" (article.members children) = some article.charset :=
    optional?_of_lookup asText?_text
      (by simp [members, List.lookup_cons, List.lookup_append, lookup_member?])
  have markupVersion : optional? asText? "markup_version" (article.members children) =
      some article.markupVersion := optional?_of_lookup asText?_text
    (by simp [members, List.lookup_cons, List.lookup_append, lookup_member?])
  have automaticAds : required? asFlag? "auto_ad_placement" (article.members children) =
      some article.automaticAds := required?_of_lookup asFlag?_flag
    (by simp [members, List.lookup_cons, List.lookup_append, lookup_member?])
  have header : optional? Header.ofJson? "header" (article.members children) =
      some article.header := optional?_of_lookup Header.ofJson?_members
    (by simp [members, List.lookup_cons, List.lookup_append, lookup_member?])
  rw [Article.ofMembers?, canonicalUrl, charset, markupVersion, automaticAds, header]
  rfl

theorem childrenAmong?_members (article : Article) (children : List Json) :
    Element.childrenAmong? (article.members children) = Element.allOf? children := by
  have found : (article.members children).lookup "children" = some (.list children) := by
    simp [members, List.lookup_cons, List.lookup_append, lookup_member?]
  rw [Element.childrenAmong?_eq, required?, found, Option.bind_some, Element.listed?]

end Article

namespace Element

theorem ofJson?_of_kind (kind : Kind) {members : List (String × Json)}
    (named : members.lookup "kind" = some (.text kind.name)) :
    ofJson? (.object members) = ofMembers? members (childrenAmong? members) kind := by
  rw [ofJson?, required?_of_lookup asNamed?_kind named]
  rfl

mutual

/-- Every element is read back from its form. -/
theorem ofJson?_form : ∀ element : Element, ofJson? element.form = some element
  | .article ⟨canonicalUrl, charset, markupVersion, automaticAds, title, children⟩ => by
      rw [Article.form_eq, ofJson?_of_kind .article rfl, ofMembers?,
        Article.childrenAmong?_members, allOf?_forms children, Option.bind_eq_bind, Option.bind_some,
        Article.ofMembers?_form]
      rfl
  | .header content => by
      rw [form, ofJson?_of_kind .header rfl, ofMembers?, Header.ofMembers?_form]
      rfl
  | .interactive content => by
      rw [form, ofJson?_of_kind .interactive rfl, ofMembers?, Interactive.ofMembers?_form]
      rfl
  | .video content => by
      rw [form, ofJson?_of_kind .video rfl, ofMembers?, Video.ofMembers?_form]
      rfl
  | .caption content => by
      rw [form, ofJson?_of_kind .caption rfl, ofMembers?, Caption.ofMembers?_form]
      rfl

theorem allOf?_forms : ∀ elements : List Element, allOf? (forms elements) = some elements
  | [] => rfl
  | element :: rest => by
      rw [forms, allOf?, ofJson?_form element, allOf?_forms rest]
      rfl

end

end Element

theorem Header.fields (header : Header) : Fields ["title", "kicker"] header.members :=
  (Fields.optional .text).append (.optional .text)

theorem Caption.fields (caption : Caption) : Fields ["title", "credit"] caption.members :=
  (Fields.optional .text).append (.optional .text)

theorem Caption.distinct (caption : Caption) : Distinct (.object caption.members) :=
  caption.fields.distinct (by decide)

theorem Interactive.fields (interactive : Interactive) :
    Fields ["source", "html", "width", "height", "caption"] interactive.members :=
  ((((Fields.optional .text).append (.optional .text)).append
    (.optional fun _ => .text _)).append
      (.optional fun _ => .number _)).append (.optional Caption.distinct)

theorem Video.fields (video : Video) :
    Fields ["url", "content_type", "presentation", "caption", "autoplay", "controls"] video.members :=
  ((((Fields.optional .text).append (.optional .text)).append
    (.optional fun _ => .text _)).append
      (.optional Caption.distinct)).append ((Fields.single (.flag _)).append (.single (.flag _)))

/-- The kind comes first among the members of a form. -/
theorem Json.Fields.withKind {names : List String} {members : List (String × Json)}
    (fields : Fields names members) (kind : Kind) :
    Fields ("kind" :: names) (("kind", .text kind.name) :: members) :=
  (Fields.single (.text _)).append fields

theorem Article.fields (article : Article) {children : List Json}
    (distinct : ∀ child ∈ children, child.Distinct) :
    Fields ["kind", "canonical_url", "charset", "markup_version", "auto_ad_placement", "header",
      "children"] (article.members children) :=
  ((((((Fields.single (.text _)).append (.optional .text)).append (.optional .text)).append
    (.optional .text)).append (.single (.flag _))).append
      (.optional fun header => header.fields.distinct (by decide))).append (.single (.list distinct))

namespace Element

mutual

/-- No name is written twice in an object of a form. -/
theorem form_distinct : ∀ element : Element, element.form.Distinct
  | .article ⟨canonicalUrl, charset, markupVersion, automaticAds, title, children⟩ => by
      rw [Article.form_eq]
      exact (Article.fields _ (forms_distinct children)).distinct (by decide)
  | .header content => by
      rw [form]
      exact (content.fields.withKind .header).distinct (by decide)
  | .interactive content => by
      rw [form]
      exact (content.fields.withKind .interactive).distinct (by decide)
  | .video content => by
      rw [form]
      exact (content.fields.withKind .video).distinct (by decide)
  | .caption content => by
      rw [form]
      exact (content.fields.withKind .caption).distinct (by decide)

theorem forms_distinct : ∀ elements : List Element, ∀ child ∈ forms elements, child.Distinct
  | [] => by rw [forms]; nofun
  | element :: rest => by
      rw [forms]
      exact List.forall_mem_cons.2 ⟨form_distinct element, forms_distinct rest⟩

end

/-- The JSON form of an element loses nothing. The element is read back from every value that is the same as
its form, whatever the order of members is, so that elements with the same form are equal. That forms are
compared by the first member of each name leaves nothing out, as no name is written twice in an object. -/
theorem form_lossless (element : Element) :
    element.form.Distinct ∧ (∀ json, Json.Same element.form json → ofJson? json = some element) ∧
      ∀ other : Element, Json.Same element.form other.form → element = other := by
  have reads : ∀ json, Json.Same element.form json → ofJson? json = some element := by
    intro json same
    rw [← (ofJson?_of_same same).1, ofJson?_form]
  refine ⟨form_distinct element, reads, fun other same => ?_⟩
  have readToo := reads other.form same
  rw [ofJson?_form] at readToo
  exact (Option.some.inj readToo).symm

/-- An article with an empty header, and a video with an empty caption in it. -/
def bulletin : Element :=
  .article { charset := some "utf-8", header := some {}, children := [.video { caption := some {} }] }

/-- The form of the article with its members in the opposite order. -/
def bulletinReversed : Json :=
  .object [("children", .list [.object [("kind", .text "Video"), ("caption", .object []),
      ("autoplay", .flag true), ("controls", .flag false)]]),
    ("header", .object []), ("auto_ad_placement", .flag true), ("charset", .text "utf-8"),
    ("kind", .text "InstantArticle")]

theorem form_lossless_bulletin :
    Json.Same bulletin.form bulletinReversed ∧ ofJson? bulletinReversed = some bulletin ∧
      ¬ Json.Same bulletin.form (form (.article { charset := some "utf-8", children := [.video {}] })) := by
  have same : Json.Same bulletin.form bulletinReversed :=
    Json.Same.of_perm (by decide) (List.reverse_perm _).symm
  obtain ⟨_, reads, determines⟩ := form_lossless bulletin
  refine ⟨same, reads _ same, fun sameForm => ?_⟩
  cases determines _ sameForm

end Element

end ArticleRules
