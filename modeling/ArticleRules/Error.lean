import ArticleRules.Address.Fault
import ArticleRules.Css.Fault
import ArticleRules.Element.Kind
import ArticleRules.Json.Fault

/-
This file defines everything that can go wrong, and how it is worded. Some errors come from the
configuration of rules and all others from the content that is converted.
-/

namespace ArticleRules

/-- The fields of elements that refuse some values. -/
inductive Field where
  | canonical
  | charset
  | markupVersion
  | children
  | headerTitle
  | headerKicker
  | captionTitle
  | captionCredit
  | interactiveUrl
  | interactiveIframe
  | interactiveWidth
  | interactiveHeight
  | videoUrl
  | videoType
  | videoPresentation
  deriving DecidableEq, Repr

def Field.name : Field → String
  | canonical => "article.canonical"
  | charset => "article.charset"
  | markupVersion => "article.markup.version"
  | children => "article.children"
  | headerTitle => "header.title"
  | headerKicker => "header.kicker"
  | captionTitle => "caption.title"
  | captionCredit => "caption.credit"
  | interactiveUrl => "interactive.url"
  | interactiveIframe => "interactive.iframe"
  | interactiveWidth => "interactive.width"
  | interactiveHeight => "interactive.height"
  | videoUrl => "video.url"
  | videoType => "video.type"
  | videoPresentation => "video.presentation"

/-- Why a field refuses a value. -/
inductive Refusal where
  | blank
  | address (fault : Address.Fault)
  | notInBody
  | unknownWidth
  | unknownPresentation
  | notMediaType
  | notPositive
  | noDigits
  | notDigits
  | tooLarge
  deriving DecidableEq, Repr

def Refusal.words : Refusal → String
  | blank => "must not be empty"
  | address fault => fault.words
  | notInBody => "not a body element"
  | unknownWidth => "expected no-margin or column-width"
  | unknownPresentation => "expected aspect-fit, aspect-fit-only, fullscreen or non-interactive"
  | notMediaType => "expected a MIME type"
  | notPositive => "must be a positive number of pixels"
  | noDigits => "cannot parse integer from empty string"
  | notDigits => "invalid digit found in string"
  | tooLarge => "number too large to fit in target type"

/-- What is wrong with the configuration of a rule. -/
inductive Misconfiguration where
  | unknownContext (name : String)
  | noSelector (rule : String)
  | noAttribute (property getter : String)
  | noDefinition (rule : String) (properties : List String)
  deriving DecidableEq, Repr

def Misconfiguration.words : Misconfiguration → String
  | unknownContext name =>
    "Unknown context: " ++ name ++ ". Valid options: " ++ ", ".intercalate (Kind.all.map Kind.name)
  | noSelector rule => rule ++ " has no selector"
  | noAttribute property getter =>
    "Property '" ++ property ++ "' uses the '" ++ getter ++ "' getter but names no attribute"
  | noDefinition rule properties =>
    rule ++ " needs a definition for " ++ " or ".intercalate properties

inductive Error where
  | invalidSelector (source : String) (fault : Css.Fault)
  | unknownGetter (name : String)
  | unknownRule (name : String)
  | misconfigured (cause : Misconfiguration)
  | missingProperty (rule property node : String)
  | invalidValue (field : Field) (value : String) (refusal : Refusal)
  | contextMismatch (expected found : Kind)
  | depthExceeded (limit : Nat)
  | invalidRuleSet (fault : Json.Fault)

namespace Error

def message : Error → String
  | invalidSelector source fault => "Invalid selector '" ++ source ++ "': " ++ fault.reason
  | unknownGetter name => "Unknown getter kind: " ++ name
  | unknownRule name => "Unknown rule type: " ++ name
  | misconfigured cause => "Configuration error: " ++ cause.words
  | missingProperty rule property node => rule ++ " could not find '" ++ property ++ "' in " ++ node
  | invalidValue field value refusal =>
    "Invalid value '" ++ value ++ "' for " ++ field.name ++ ": " ++ refusal.words
  | contextMismatch expected found => "Expected a " ++ expected.name ++ " context, found " ++ found.name
  | depthExceeded limit => "Transform depth limit of " ++ toString limit ++ " exceeded"
  | invalidRuleSet fault => "Rule set error: " ++ fault.words

/-- Errors of configuration arise before any content is looked at. -/
def isConfiguration : Error → Bool
  | invalidSelector _ _ | unknownGetter _ | unknownRule _ | misconfigured _ | invalidRuleSet _ => true
  | missingProperty _ _ _ | invalidValue _ _ _ | contextMismatch _ _ | depthExceeded _ => false

end Error

end ArticleRules
