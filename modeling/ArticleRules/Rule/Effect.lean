import ArticleRules.Rule.Basic
import ArticleRules.Walk.Basic

/-
This file says what each rule does with the node it matched: it changes the context, and it may walk on
below the node to complete an element first. A host may walk on anywhere.
-/

namespace ArticleRules

/-- A digit is added to a number as long as the number fits 32 bits. -/
def addDigit (value : Nat) (digit : Char) : Except Refusal Nat :=
  let larger := 10 * value + (digit.toNat - '0'.toNat)
  if !digit.isDigit then .error .notDigits
  else if larger < UInt32.size then .ok larger
  else .error .tooLarge

/-- Pixels are written in digits after an optional plus sign. -/
def readPixels (text : String) : Except Refusal UInt32 := do
  let characters := (Text.trim text).toList
  let digits := if characters.head? == some '+' then characters.drop 1 else characters
  if characters.isEmpty then throw .noDigits
  if digits.isEmpty then throw .notDigits
  return (← digits.foldlM addDigit 0).toUInt32

namespace Pattern

/-- The height that the pattern reads from a node, if it counts as set. -/
def height? (pattern : Pattern) (place : Place) : Except Error (Option UInt32) :=
  match pattern.truthy? PropertyName.height place with
  | none => .ok none
  | some value =>
    match readPixels value.toText with
    | .ok pixels => .ok (some pixels)
    | .error refusal => .error (.invalidValue .interactiveHeight value.toText refusal)

def isTruthy (pattern : Pattern) (name : String) (place : Place) : Bool :=
  (pattern.truthy? name place).isSome

/-- The property has a value, whether it counts as set or not, and reads false. -/
def readsFalse (pattern : Pattern) (name : String) (place : Place) : Bool :=
  (pattern.value? name place).any fun value => Text.trim value.toText == "false"

/-- Sets a field from the text of a property if the property counts as set. -/
def setText (pattern : Pattern) (name : String) (place : Place) (element : α)
    (set : α → String → Except Error α) : Except Error α :=
  match pattern.truthy? name place with
  | some value => set element value.toText
  | none => .ok element

/-- The article with the metadata that the pattern reads from the node. -/
def describeArticle (pattern : Pattern) (article : Article) (place : Place) : Except Error Article := do
  let canonical ← pattern.require RuleName.metadata PropertyName.canonical place
  let article ← article.setCanonicalUrl canonical.toText
  let article ← pattern.setText PropertyName.charset place article Article.setCharset
  let article ← pattern.setText PropertyName.markupVersion place article Article.setMarkupVersion
  return if pattern.readsFalse PropertyName.automaticAds place then article.setAutomaticAds false
    else article

/-- The interactive element that the pattern reads from the node. It has markup, an address or both. -/
def buildInteractive (pattern : Pattern) (place : Place) : Except Error Interactive := do
  let markup := pattern.truthy? PropertyName.iframe place
  let url := pattern.truthy? PropertyName.url place
  if markup.isNone && url.isNone then
    throw (.missingProperty RuleName.interactive PropertyName.iframe place.node.describe)
  let interactive : Interactive := {}
  let interactive ←
    match markup with
    | some value => interactive.setHtml value.toMarkup
    | none => pure interactive
  let interactive ←
    match url with
    | some value => interactive.setSource value.toText
    | none => pure interactive
  let interactive := interactive.setWidth
    (if pattern.isTruthy PropertyName.columnWidth place then .column else .noMargin)
  match ← pattern.height? place with
  | some pixels => interactive.setHeight pixels
  | none => return interactive

/-- The video that the pattern reads from the node. It has an address. -/
def buildVideo (pattern : Pattern) (place : Place) : Except Error Video := do
  let url ← pattern.require RuleName.video PropertyName.videoUrl place
  let video ← Video.setUrl {} url.toText
  let video ← pattern.setText PropertyName.videoType place video Video.setMediaType
  let video ← pattern.setText PropertyName.presentation place video fun video name =>
    return video.setPresentation (← Presentation.read name)
  let video := if pattern.isTruthy PropertyName.controls place then video.enableControls else video
  return if pattern.readsFalse PropertyName.autoplay place then video.disableAutoplay else video

/-- The caption that the pattern reads from the node. Its title falls back to the text of the node. -/
def buildCaption (pattern : Pattern) (place : Place) : Except Error Caption := do
  let title :=
    match pattern.truthy? PropertyName.captionTitle place with
    | some value => value.toText
    | none => place.textContent
  let caption ← Caption.setTitle {} title
  pattern.setText PropertyName.captionCredit place caption Caption.setCredit

end Pattern

/-- Runs a routine with the given walk. -/
def Routine.run (walker : Element → Place → Walk Element) : Routine → Walk Element
  | ok element => return element
  | error cause => throw cause
  | walk context place next => do
    let result ← Walk.observe (walker context place)
    (next result).run walker

namespace Rule

/-- Applies a rule to a node. The given walk visits what is below a place. -/
def apply (rule : Rule) (walker : Element → Place → Walk Element) (context : Element) (place : Place) :
    Walk Element := do
  match rule with
  | metadata pattern =>
    let article ← Walk.ofExcept context.asArticle
    return .article (← Walk.ofExcept (pattern.describeArticle article place))
  | header _ =>
    let article ← Walk.ofExcept context.asArticle
    let header ← Walk.ofExcept (← walker (.header (article.header.getD {})) place).asHeader
    return .article (article.setHeader header)
  | headerTitle _ =>
    let header ← Walk.ofExcept context.asHeader
    return .header (← Walk.ofExcept (header.setTitle place.textContent))
  | headerKicker _ =>
    let header ← Walk.ofExcept context.asHeader
    return .header (← Walk.ofExcept (header.setKicker place.textContent))
  | interactive pattern =>
    let article ← Walk.ofExcept context.asArticle
    let built ← Walk.ofExcept (pattern.buildInteractive place)
    let child ←
      if pattern.isTruthy PropertyName.interactiveCaption place then walker (.interactive built) place
      else pure (.interactive built)
    return .article (← Walk.ofExcept (article.addChild child))
  | video pattern =>
    let article ← Walk.ofExcept context.asArticle
    let built ← Walk.ofExcept (pattern.buildVideo place)
    let child ←
      if pattern.isTruthy PropertyName.videoCaption place then walker (.video built) place
      else pure (.video built)
    return .article (← Walk.ofExcept (article.addChild child))
  | caption pattern _ =>
    let caption ← Walk.ofExcept (pattern.buildCaption place)
    Walk.ofExcept (context.attachCaption caption)
  | passThrough _ _ => walker context place
  | ignore _ _ => return context
  | host rule => (rule.build context place).run walker

end Rule

end ArticleRules
