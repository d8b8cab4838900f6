import ArticleRules.Rule.Effect

/-
This file sorts the errors of building elements. Setting fields and reading properties blames the node
alone: it lacks a property, or a value in it suits no field.
-/

namespace ArticleRules

theorem Except.ok_bind (value : α) (next : α → Except Error β) :
    (Except.ok value >>= next) = next value := rfl

theorem Except.error_bind (error : Error) (next : α → Except Error β) :
    ((Except.error error : Except Error α) >>= next) = .error error := rfl

theorem Except.bind_eq_ok {outcome : Except Error α} {next : α → Except Error β} {value : β}
    (succeeded : outcome >>= next = .ok value) :
    ∃ first, outcome = .ok first ∧ next first = .ok value := by
  cases outcome with
  | error error => cases succeeded
  | ok first => exact ⟨first, rfl, succeeded⟩

theorem Except.bind_eq_error {outcome : Except Error α} {next : α → Except Error β} {error : Error}
    (failed : outcome >>= next = .error error) :
    outcome = .error error ∨ ∃ first, outcome = .ok first ∧ next first = .error error := by
  cases outcome with
  | error cause =>
      cases failed
      exact Or.inl rfl
  | ok first => exact Or.inr ⟨first, rfl, failed⟩

/-- A computation fails with errors of one sort only. -/
def FailsOnlyWith (allowed : Error → Bool) (outcome : Except Error α) : Prop :=
  ∀ error, outcome = .error error → allowed error = true

namespace FailsOnlyWith

variable {allowed : Error → Bool}

theorem pure (value : α) : FailsOnlyWith allowed (Pure.pure value) := by
  intro error failed
  cases failed

theorem throw {error : Error} (member : allowed error = true) :
    FailsOnlyWith allowed (.error error : Except Error α) := by
  intro other failed
  cases failed
  exact member

theorem bind {outcome : Except Error α} {next : α → Except Error β}
    (first : FailsOnlyWith allowed outcome) (rest : ∀ value, FailsOnlyWith allowed (next value)) :
    FailsOnlyWith allowed (outcome >>= next) := by
  intro error failed
  obtain early | ⟨value, succeeded, late⟩ := Except.bind_eq_error failed
  · exact first error early
  · exact rest value error late

theorem map {outcome : Except Error α} (first : FailsOnlyWith allowed outcome) (make : α → β) :
    FailsOnlyWith allowed (make <$> outcome) := by
  intro error failed
  cases outcome with
  | error cause =>
      cases failed
      exact first error rfl
  | ok value => cases failed

theorem imp {wider : Error → Bool} {outcome : Except Error α}
    (first : FailsOnlyWith allowed outcome)
    (member : ∀ error, allowed error = true → wider error = true) : FailsOnlyWith wider outcome := by
  intro error failed
  exact member error (first error failed)

/-- A loop fails with what its steps fail with. -/
theorem foldlM {step : β → α → Except Error β}
    (steps : ∀ state value, FailsOnlyWith allowed (step state value)) (values : List α) (start : β) :
    FailsOnlyWith allowed (values.foldlM step start) := by
  induction values generalizing start with
  | nil => exact pure start
  | cons value rest ih =>
      rw [List.foldlM_cons]
      exact (steps start value).bind ih

theorem mapM {make : α → Except Error β} (each : ∀ value, FailsOnlyWith allowed (make value))
    (values : List α) : FailsOnlyWith allowed (values.mapM make) := by
  induction values with
  | nil => exact pure []
  | cons value rest ih =>
      rw [List.mapM_cons]
      exact (each value).bind fun first => ih.bind fun others => pure (first :: others)

end FailsOnlyWith

/-- A flaw of a node is a missing property, or a value that a field other than the body refuses. -/
def Error.isFlaw : Error → Bool
  | missingProperty _ _ _ => true
  | invalidValue field _ _ => field != .children
  | _ => false

/-- Only the node is to blame if the computation fails. -/
abbrev BlamesNode (outcome : Except Error α) : Prop :=
  FailsOnlyWith Error.isFlaw outcome

theorem requireText_blames {field : Field} (outside : field ≠ .children) (value : String) :
    BlamesNode (requireText field value) := by
  unfold requireText
  dsimp only
  split
  · exact FailsOnlyWith.throw (bne_iff_ne.2 outside)
  · exact FailsOnlyWith.pure _

theorem Header.setTitle_blames (header : Header) (title : String) :
    BlamesNode (header.setTitle title) :=
  (requireText_blames (by decide) title).bind fun _ => .pure _

theorem Header.setKicker_blames (header : Header) (kicker : String) :
    BlamesNode (header.setKicker kicker) :=
  (requireText_blames (by decide) kicker).bind fun _ => .pure _

theorem Caption.setTitle_blames (caption : Caption) (title : String) :
    BlamesNode (caption.setTitle title) :=
  (requireText_blames (by decide) title).bind fun _ => .pure _

theorem Caption.setCredit_blames (caption : Caption) (credit : String) :
    BlamesNode (caption.setCredit credit) :=
  (requireText_blames (by decide) credit).bind fun _ => .pure _

theorem Presentation.read_blames (name : String) : BlamesNode (Presentation.read name) := by
  unfold read
  split
  · exact FailsOnlyWith.pure _
  · exact FailsOnlyWith.throw rfl

namespace Interactive

theorem setSource_blames (interactive : Interactive) (source : String) :
    BlamesNode (interactive.setSource source) :=
  (requireText_blames (by decide) source).bind fun _ => .pure _

theorem setHtml_blames (interactive : Interactive) (html : String) :
    BlamesNode (interactive.setHtml html) :=
  (requireText_blames (by decide) html).bind fun _ => .pure _

theorem setHeight_blames (interactive : Interactive) (pixels : UInt32) :
    BlamesNode (interactive.setHeight pixels) := by
  unfold setHeight
  split
  · exact FailsOnlyWith.throw rfl
  · exact FailsOnlyWith.pure _

end Interactive

namespace Video

theorem setUrl_blames (video : Video) (url : String) : BlamesNode (video.setUrl url) :=
  (requireText_blames (by decide) url).bind fun _ => .pure _

theorem setMediaType_blames (video : Video) (mediaType : String) :
    BlamesNode (video.setMediaType mediaType) := by
  refine (requireText_blames (by decide) mediaType).bind fun trimmed => ?_
  split
  · exact FailsOnlyWith.pure _
  · exact FailsOnlyWith.throw rfl

end Video

namespace Article

theorem setCanonicalUrl_blames (article : Article) (url : String) :
    BlamesNode (article.setCanonicalUrl url) := by
  unfold setCanonicalUrl
  dsimp only
  split
  · exact FailsOnlyWith.pure _
  · exact FailsOnlyWith.throw rfl

theorem setCharset_blames (article : Article) (charset : String) :
    BlamesNode (article.setCharset charset) :=
  (requireText_blames (by decide) charset).bind fun _ => .pure _

theorem setMarkupVersion_blames (article : Article) (version : String) :
    BlamesNode (article.setMarkupVersion version) :=
  (requireText_blames (by decide) version).bind fun _ => .pure _

end Article

namespace Pattern

theorem require_blames (pattern : Pattern) (rule name : String) (place : Place) :
    BlamesNode (pattern.require rule name place) := by
  unfold require
  split
  · exact FailsOnlyWith.pure _
  · exact FailsOnlyWith.throw rfl

theorem height?_blames (pattern : Pattern) (place : Place) : BlamesNode (pattern.height? place) := by
  unfold height?
  split
  · exact FailsOnlyWith.pure _
  · split
    · exact FailsOnlyWith.pure _
    · exact FailsOnlyWith.throw rfl

theorem setText_blames {set : α → String → Except Error α}
    (setting : ∀ element text, BlamesNode (set element text)) (pattern : Pattern) (name : String)
    (place : Place) (element : α) : BlamesNode (pattern.setText name place element set) := by
  unfold setText
  split
  · exact setting _ _
  · exact FailsOnlyWith.pure _

theorem describeArticle_blames (pattern : Pattern) (article : Article) (place : Place) :
    BlamesNode (pattern.describeArticle article place) :=
  (pattern.require_blames _ _ place).bind fun _ =>
    (article.setCanonicalUrl_blames _).bind fun _ =>
      (setText_blames Article.setCharset_blames pattern _ place _).bind fun _ =>
        (setText_blames Article.setMarkupVersion_blames pattern _ place _).bind fun _ => .pure _

/-- The width and the height that the pattern reads from the node are set last. -/
def sizeInteractive (pattern : Pattern) (place : Place) (interactive : Interactive) :
    Except Error Interactive := do
  let interactive := interactive.setWidth
    (if pattern.isTruthy PropertyName.columnWidth place then .column else .noMargin)
  match ← pattern.height? place with
  | some pixels => interactive.setHeight pixels
  | none => return interactive

/-- Of markup and address one may be missing. What is there is set in this order, before the size. -/
theorem buildInteractive_eq (pattern : Pattern) (place : Place) :
    pattern.buildInteractive place =
      match pattern.truthy? PropertyName.iframe place, pattern.truthy? PropertyName.url place with
      | none, none =>
        .error (.missingProperty RuleName.interactive PropertyName.iframe place.node.describe)
      | some markup, none =>
        Interactive.setHtml {} markup.toMarkup >>= pattern.sizeInteractive place
      | none, some url => Interactive.setSource {} url.toText >>= pattern.sizeInteractive place
      | some markup, some url =>
        Interactive.setHtml {} markup.toMarkup >>= fun interactive =>
          interactive.setSource url.toText >>= pattern.sizeInteractive place := by
  unfold buildInteractive
  cases pattern.truthy? PropertyName.iframe place <;>
    cases pattern.truthy? PropertyName.url place <;>
      simp only [Option.isNone_none, Option.isNone_some, Bool.and_true, Bool.and_false, if_true,
        Bool.false_eq_true, if_false, pure_bind] <;> rfl

theorem sizeInteractive_blames (pattern : Pattern) (place : Place) (interactive : Interactive) :
    BlamesNode (pattern.sizeInteractive place interactive) := by
  refine (pattern.height?_blames place).bind fun height => ?_
  cases height with
  | none => exact FailsOnlyWith.pure _
  | some pixels => exact Interactive.setHeight_blames _ pixels

theorem buildInteractive_blames (pattern : Pattern) (place : Place) :
    BlamesNode (pattern.buildInteractive place) := by
  rw [buildInteractive_eq]
  split
  · exact FailsOnlyWith.throw rfl
  · exact (Interactive.setHtml_blames _ _).bind (pattern.sizeInteractive_blames place)
  · exact (Interactive.setSource_blames _ _).bind (pattern.sizeInteractive_blames place)
  · exact (Interactive.setHtml_blames _ _).bind fun _ =>
      (Interactive.setSource_blames _ _).bind (pattern.sizeInteractive_blames place)

theorem buildVideo_blames (pattern : Pattern) (place : Place) :
    BlamesNode (pattern.buildVideo place) :=
  (pattern.require_blames _ _ place).bind fun _ =>
    (Video.setUrl_blames _ _).bind fun _ =>
      (setText_blames Video.setMediaType_blames pattern _ place _).bind fun _ =>
        (setText_blames (fun _ name => (Presentation.read_blames name).bind fun _ => .pure _) pattern _
          place _).bind fun _ => .pure _

theorem buildCaption_blames (pattern : Pattern) (place : Place) :
    BlamesNode (pattern.buildCaption place) :=
  (Caption.setTitle_blames _ _).bind fun _ =>
    setText_blames Caption.setCredit_blames pattern _ place _

end Pattern

end ArticleRules
