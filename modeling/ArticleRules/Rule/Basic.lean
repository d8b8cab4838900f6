import ArticleRules.Element.Basic
import ArticleRules.Property.Pattern

/-
This file defines rules. A rule has a selector and the kind of context it applies to, and a rule of the
library also says which properties it reads.
-/

namespace ArticleRules

/-- What a host does with a node. It may start any number of walks, from any context and at any place, and
goes on with what each of them comes back with, be it an error. In the end it gives an element or fails. -/
inductive Routine where
  | ok (element : Element)
  | error (error : Error)
  | walk (context : Element) (place : Place) (next : Except Error Element → Routine)

/-- A rule from outside the library matches as other rules do. It changes nothing but the context. -/
structure HostRule where
  name : String
  context : Kind
  selector : Selector
  build : Element → Place → Routine

inductive Rule where
  | metadata (pattern : Pattern)
  | header (pattern : Pattern)
  | headerTitle (pattern : Pattern)
  | headerKicker (pattern : Pattern)
  | interactive (pattern : Pattern)
  | video (pattern : Pattern)
  | caption (pattern : Pattern) (context : Kind)
  | passThrough (pattern : Pattern) (context : Kind)
  | ignore (pattern : Pattern) (context : Kind)
  | host (rule : HostRule)

-- The names of the rules of the library.
namespace RuleName

def metadata : String := "InstantArticleRule"
def header : String := "HeaderRule"
def headerTitle : String := "HeaderTitleRule"
def headerKicker : String := "HeaderKickerRule"
def interactive : String := "InteractiveRule"
def video : String := "VideoRule"
def caption : String := "CaptionRule"
def passThrough : String := "PassThroughRule"
def ignore : String := "IgnoreRule"

end RuleName

-- The names of the properties that rules of the library read.
namespace PropertyName

def canonical : String := "article.canonical"
def charset : String := "article.charset"
def markupVersion : String := "article.markup.version"
def automaticAds : String := "article.auto.ad"
def iframe : String := "interactive.iframe"
def url : String := "interactive.url"
def noMargin : String := "no-margin"
def columnWidth : String := "column-width"
def height : String := "interactive.height"
def interactiveCaption : String := "interactive.caption"
def videoUrl : String := "video.url"
def videoType : String := "video.type"
def presentation : String := "video.presentation"
def controls : String := "video.controls"
def autoplay : String := "video.autoplay"
def videoCaption : String := "video.caption"
def captionTitle : String := "caption.title"
def captionCredit : String := "caption.credit"

end PropertyName

namespace Rule

def name : Rule → String
  | metadata _ => RuleName.metadata
  | header _ => RuleName.header
  | headerTitle _ => RuleName.headerTitle
  | headerKicker _ => RuleName.headerKicker
  | interactive _ => RuleName.interactive
  | video _ => RuleName.video
  | caption _ _ => RuleName.caption
  | passThrough _ _ => RuleName.passThrough
  | ignore _ _ => RuleName.ignore
  | host rule => rule.name

/-- The kind of context that the rule applies to. -/
def context : Rule → Kind
  | metadata _ | header _ | interactive _ | video _ => .article
  | headerTitle _ | headerKicker _ => .header
  | caption _ context | passThrough _ context | ignore _ context => context
  | host rule => rule.context

def selector : Rule → Selector
  | metadata pattern | header pattern | headerTitle pattern | headerKicker pattern => pattern.selector
  | interactive pattern | video pattern => pattern.selector
  | caption pattern _ | passThrough pattern _ | ignore pattern _ => pattern.selector
  | host rule => rule.selector

/-- A rule matches a node in contexts of its kind. -/
def matchesAt (rule : Rule) (context : Kind) (place : Place) : Bool :=
  context == rule.context && rule.selector.matchesAt place

/-- The metadata of an article includes its address. -/
def metadata? (pattern : Pattern) : Except Error Rule := do
  pattern.expectAny RuleName.metadata [PropertyName.canonical]
  return metadata pattern

/-- An interactive element has markup or an address. -/
def interactive? (pattern : Pattern) : Except Error Rule := do
  pattern.expectAny RuleName.interactive [PropertyName.iframe, PropertyName.url]
  return interactive pattern

/-- A video has an address. -/
def video? (pattern : Pattern) : Except Error Rule := do
  pattern.expectAny RuleName.video [PropertyName.videoUrl]
  return video pattern

/-- Of several rules that match, the last one counts. -/
def findMatch (rules : List Rule) (context : Kind) (place : Place) : Option Rule :=
  rules.reverse.find? (·.matchesAt context place)

end Rule

end ArticleRules
