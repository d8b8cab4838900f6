import ArticleRules.Property.Basic

/-
This file defines the patterns that rules consist of: a selector, and the properties that are read from
the nodes it matches.
-/

namespace ArticleRules

/-- A pattern holds at most one property of each name, in the order of their last definition. -/
structure Pattern where
  selector : Selector
  properties : List Property

namespace Pattern

def read (selector : String) : Except Error Pattern := do
  return ⟨← Selector.read selector, []⟩

/-- A property replaces an earlier one of the same name. -/
def define (pattern : Pattern) (property : Property) : Pattern :=
  { pattern with properties := pattern.properties.filter (·.name != property.name) ++ [property] }

def defines (pattern : Pattern) (name : String) : Bool :=
  pattern.properties.any (·.name == name)

/-- The value of a property on a node, if the property is defined and its getter finds one. -/
def value? (pattern : Pattern) (name : String) (place : Place) : Option PropertyValue := do
  (← pattern.properties.find? (·.name == name)).value? place

/-- The value of a property if it counts as set. -/
def truthy? (pattern : Pattern) (name : String) (place : Place) : Option PropertyValue :=
  (pattern.value? name place).filter PropertyValue.isTruthy

/-- The value of a property that a rule cannot do without. -/
def require (pattern : Pattern) (rule name : String) (place : Place) : Except Error PropertyValue :=
  match pattern.truthy? name place with
  | some value => .ok value
  | none => .error (.missingProperty rule name place.node.describe)

/-- At least one of the properties has to be defined. -/
def expectAny (pattern : Pattern) (rule : String) (names : List String) : Except Error Unit :=
  if names.any pattern.defines then .ok () else .error (.misconfigured (.noDefinition rule names))

end Pattern

end ArticleRules
