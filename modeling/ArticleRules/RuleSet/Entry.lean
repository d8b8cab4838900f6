import ArticleRules.Rule.Basic

/-
This file defines rule sets: rules as they are written down, before they are built.
-/

namespace ArticleRules

/-- A property as it is written down. Without a selector it reads the matched node itself. -/
structure PropertyEntry where
  getter : String
  selector : Option String := none
  attributeName : Option String := none
  deriving DecidableEq, Repr

/-- A rule as it is written down. Its class may be qualified by namespaces. -/
structure RuleEntry where
  ruleClass : String
  selector : Option String := none
  context : Option String := none
  properties : NameMap PropertyEntry := .empty

/-- Earlier rules of a set have lower priority. -/
structure RuleSet where
  rules : List RuleEntry := []

namespace PropertyEntry

def build (entry : PropertyEntry) (table : GetterTable) (name : String) : Except Error Property :=
  Property.build table name entry.getter (entry.selector.getD Selector.itselfName) entry.attributeName

end PropertyEntry

namespace RuleEntry

/-- The selector of a rule cannot be left out. -/
def requireSelector (entry : RuleEntry) : Except Error String :=
  match entry.selector with
  | some selector => .ok selector
  | none => .error (.misconfigured (.noSelector entry.ruleClass))

/-- The kind of context that the entry names, or the given one if it names none. -/
def contextOr (entry : RuleEntry) (default : Kind) : Except Error Kind :=
  match entry.context with
  | some name => Kind.read name
  | none => .ok default

/-- Adds the named properties to a pattern. Other properties are passed over. -/
def defineAmong (names : List String) (table : GetterTable) (pattern : Pattern)
    (property : String × PropertyEntry) : Except Error Pattern := do
  if names.contains property.1 then return pattern.define (← property.2.build table property.1)
  else return pattern

/-- The pattern of a rule that reads the named properties. -/
def pattern (entry : RuleEntry) (table : GetterTable) (names : List String) : Except Error Pattern := do
  let pattern ← Pattern.read (← entry.requireSelector)
  entry.properties.entries.foldlM (defineAmong names table) pattern

end RuleEntry

end ArticleRules
