import ArticleRules.Proofs.Element.Requirement
import ArticleRules.Proofs.Rule.Pixels

/-
This file lists what interactive elements and videos require of the node that they are built from, in the
order in which it is checked, and says what is built if all of it is met.
-/

namespace ArticleRules

open Requirement

namespace Pattern

/-- A height is a number that fits 32 bits, and it is not zero. -/
def heightRequirements (text : String) : List Requirement :=
  [⟨Text.IsNumeral text ∧ Text.numeralValue text < UInt32.size,
      .invalidValue .interactiveHeight text (Text.pixelRefusal text)⟩,
    ⟨Text.numeralValue text ≠ 0, .invalidValue .interactiveHeight "0" .notPositive⟩]

/-- Markup or an address has to be there, and neither may be blank. A height has to be one. -/
def interactiveRequirements (pattern : Pattern) (place : Place) : List Requirement :=
  let markup := pattern.truthy? PropertyName.iframe place
  let url := pattern.truthy? PropertyName.url place
  let height := pattern.truthy? PropertyName.height place
  ⟨markup.isSome ∨ url.isSome,
      .missingProperty RuleName.interactive PropertyName.iframe place.node.describe⟩ ::
    (markup.elim [] (fun value => [notBlank .interactiveIframe value.toMarkup]) ++
      (url.elim [] (fun value => [notBlank .interactiveUrl value.toText]) ++
        height.elim [] fun value => heightRequirements value.toText))

/-- The interactive element that a node with all that is required holds. It has no caption yet. -/
def interactiveAt (pattern : Pattern) (place : Place) : Interactive where
  html := (pattern.truthy? PropertyName.iframe place).map fun value => Text.trim value.toMarkup
  source := (pattern.truthy? PropertyName.url place).map fun value => Text.trim value.toText
  width := some (if pattern.isTruthy PropertyName.columnWidth place then .column else .noMargin)
  height := (pattern.truthy? PropertyName.height place).map fun value =>
    (Text.numeralValue value.toText).toUInt32

/-- What is built is the same for patterns that only differ in what they say about margins. -/
theorem buildInteractive_congr {pattern other : Pattern} {place : Place}
    (same : ∀ name, name ≠ PropertyName.noMargin →
      other.value? name place = pattern.value? name place) :
    other.buildInteractive place = pattern.buildInteractive place ∧
      other.isTruthy PropertyName.interactiveCaption place =
        pattern.isTruthy PropertyName.interactiveCaption place := by
  have agrees : ∀ name, name ≠ PropertyName.noMargin →
      other.truthy? name place = pattern.truthy? name place := by
    intro name differs
    rw [truthy?, truthy?, same name differs]
  have sizes : other.sizeInteractive place = pattern.sizeInteractive place := by
    funext interactive
    rw [sizeInteractive, sizeInteractive, height?, height?, isTruthy, isTruthy,
      agrees PropertyName.columnWidth (by decide), agrees PropertyName.height (by decide)]
  constructor
  · rw [buildInteractive_eq, buildInteractive_eq, sizes, agrees PropertyName.iframe (by decide),
      agrees PropertyName.url (by decide)]
  · rw [isTruthy, isTruthy, agrees PropertyName.interactiveCaption (by decide)]

/-- A media type is not blank and has a slash. -/
def mediaTypeRequirements (text : String) : List Requirement :=
  [notBlank .videoType text,
    ⟨'/' ∈ (Text.trim text).toList, .invalidValue .videoType (Text.trim text) .notMediaType⟩]

/-- The name of a presentation may stand between blanks. -/
def presentationRequirements (text : String) : List Requirement :=
  [⟨∃ presentation : Presentation, presentation.name = Text.trim text,
    .invalidValue .videoPresentation text .unknownPresentation⟩]

/-- An address has to be there, and it may not be blank. A media type and a presentation have to be ones. -/
def videoRequirements (pattern : Pattern) (place : Place) : List Requirement :=
  let url := pattern.truthy? PropertyName.videoUrl place
  let mediaType := pattern.truthy? PropertyName.videoType place
  let presentation := pattern.truthy? PropertyName.presentation place
  ⟨url.isSome, .missingProperty RuleName.video PropertyName.videoUrl place.node.describe⟩ ::
    (url.elim [] (fun value => [notBlank .videoUrl value.toText]) ++
      (mediaType.elim [] (fun value => mediaTypeRequirements value.toText) ++
        presentation.elim [] fun value => presentationRequirements value.toText))

/-- The video that a node with all that is required holds. It has no caption yet. -/
def videoAt (pattern : Pattern) (place : Place) : Video where
  url := (pattern.truthy? PropertyName.videoUrl place).map fun value => Text.trim value.toText
  mediaType := (pattern.truthy? PropertyName.videoType place).map fun value => Text.trim value.toText
  presentation := (pattern.truthy? PropertyName.presentation place).bind fun value =>
    Presentation.ofName? (Text.trim value.toText)
  autoplay := !pattern.readsFalse PropertyName.autoplay place
  controls := pattern.isTruthy PropertyName.controls place

/-- The size is set last, and only a height can be refused. -/
theorem sizeInteractive_checks (pattern : Pattern) (place : Place) {interactive : Interactive}
    (unset : interactive.height = none) :
    Checks ((pattern.truthy? PropertyName.height place).elim [] fun value =>
        heightRequirements value.toText)
      (pattern.sizeInteractive place interactive)
      { interactive with
        width := (pattern.interactiveAt place).width
        height := (pattern.interactiveAt place).height } := by
  unfold sizeInteractive height? interactiveAt
  cases pattern.truthy? PropertyName.height place with
  | none =>
      obtain ⟨source, html, width, height, caption⟩ := interactive
      cases unset
      exact .pure _
  | some value =>
      dsimp only [Option.elim_some, Option.map_some]
      by_cases numeral : Text.IsNumeral value.toText ∧ Text.numeralValue value.toText < UInt32.size
      · rw [readPixels_numeral numeral.1 numeral.2, Except.ok_bind]
        exact .granted numeral (Interactive.setHeight_checks (interactive.setWidth _) numeral.2)
      · rw [readPixels_other numeral, Except.error_bind]
        exact .refused numeral _

theorem buildInteractive_checks (pattern : Pattern) (place : Place) :
    Checks (pattern.interactiveRequirements place) (pattern.buildInteractive place)
      (pattern.interactiveAt place) := by
  rw [buildInteractive_eq, interactiveRequirements, interactiveAt]
  cases pattern.truthy? PropertyName.iframe place with
  | none =>
      cases pattern.truthy? PropertyName.url place with
      | none => exact .refused (by simp) _
      | some url =>
          refine .granted (Or.inr rfl) ?_
          exact (Interactive.setSource_checks {} _).bind (pattern.sizeInteractive_checks place rfl)
  | some markup =>
      refine .granted (Or.inl rfl) ?_
      cases pattern.truthy? PropertyName.url place with
      | none => exact (Interactive.setHtml_checks {} _).bind (pattern.sizeInteractive_checks place rfl)
      | some url =>
          refine (Interactive.setHtml_checks {} _).bind ?_
          exact (Interactive.setSource_checks _ _).bind (pattern.sizeInteractive_checks place rfl)

theorem typeVideo_checks (pattern : Pattern) (place : Place) {video : Video}
    (unset : video.mediaType = none) :
    Checks ((pattern.truthy? PropertyName.videoType place).elim [] fun value =>
        mediaTypeRequirements value.toText)
      (pattern.setText PropertyName.videoType place video Video.setMediaType)
      { video with mediaType := (pattern.videoAt place).mediaType } := by
  unfold setText videoAt
  cases pattern.truthy? PropertyName.videoType place with
  | none =>
      obtain ⟨url, mediaType, presentation, caption, autoplay, controls⟩ := video
      cases unset
      exact .pure _
  | some value => exact video.setMediaType_checks value.toText

/-- Sets a presentation from its name. -/
def presentVideo (video : Video) (name : String) : Except Error Video := do
  return video.setPresentation (← Presentation.read name)

theorem presentVideo_checks (pattern : Pattern) (place : Place) {video : Video}
    (unset : video.presentation = none) :
    Checks ((pattern.truthy? PropertyName.presentation place).elim [] fun value =>
        presentationRequirements value.toText)
      (pattern.setText PropertyName.presentation place video presentVideo)
      { video with presentation := (pattern.videoAt place).presentation } := by
  unfold setText videoAt
  cases pattern.truthy? PropertyName.presentation place with
  | none =>
      obtain ⟨url, mediaType, presentation, caption, autoplay, controls⟩ := video
      cases unset
      exact .pure _
  | some value =>
      show Checks _ (presentVideo video value.toText) _
      apply Checks.single
      · rintro ⟨presentation, named⟩
        rw [presentVideo, Presentation.read_name named, Option.bind_some, ← named]
        cases presentation <;> rfl
      · intro other
        rw [presentVideo, Presentation.read_other other]
        rfl

/-- Sets controls and autoplay, which nothing is required for. -/
def playVideo (pattern : Pattern) (place : Place) (video : Video) : Video :=
  let video := if pattern.isTruthy PropertyName.controls place then video.enableControls else video
  if pattern.readsFalse PropertyName.autoplay place then video.disableAutoplay else video

theorem playVideo_eq (pattern : Pattern) (place : Place) :
    pattern.playVideo place
        { url := (pattern.videoAt place).url, mediaType := (pattern.videoAt place).mediaType,
          presentation := (pattern.videoAt place).presentation } = pattern.videoAt place := by
  unfold playVideo videoAt
  cases pattern.isTruthy PropertyName.controls place <;>
    cases pattern.readsFalse PropertyName.autoplay place <;> rfl

theorem buildVideo_checks (pattern : Pattern) (place : Place) :
    Checks (pattern.videoRequirements place) (pattern.buildVideo place) (pattern.videoAt place) := by
  have addressed : (pattern.videoAt place).url = (pattern.truthy? PropertyName.videoUrl place).map
      fun value => Text.trim value.toText := rfl
  rw [← playVideo_eq, addressed, buildVideo, require, videoRequirements]
  cases pattern.truthy? PropertyName.videoUrl place with
  | none => exact .refused (by simp) _
  | some address =>
      refine .granted rfl ?_
      refine (Video.setUrl_checks {} address.toText).bind ?_
      refine (pattern.typeVideo_checks place rfl).bind ?_
      exact (pattern.presentVideo_checks place rfl).map (pattern.playVideo place)

end Pattern

end ArticleRules
