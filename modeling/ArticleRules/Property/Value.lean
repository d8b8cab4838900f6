import ArticleRules.Tree.Markup

/-
This file defines the values that are extracted from nodes, and their views as text and as markup.
-/

namespace ArticleRules

inductive PropertyValue where
  | text (content : String)
  | node (place : Place)
  | nodes (places : List Place)
  | flag (isSet : Bool)

namespace PropertyValue

def flagName (isSet : Bool) : String :=
  if isSet then "true" else "false"

/-- Empty texts, empty lists and false do not count as set. -/
def isTruthy : PropertyValue → Bool
  | text content => content != ""
  | node _ => true
  | nodes places => !places.isEmpty
  | flag isSet => isSet

def asText? : PropertyValue → Option String
  | text content => some content
  | _ => none

/-- Nodes are viewed as the text that they hold. -/
def toText : PropertyValue → String
  | text content => content
  | node place => place.textContent
  | nodes places => textOf places
  | flag isSet => flagName isSet

/-- Nodes are viewed as their markup. -/
def toMarkup : PropertyValue → String
  | text content => content
  | node place => place.markup
  | nodes places => markupOf places
  | flag isSet => flagName isSet

end PropertyValue

end ArticleRules
