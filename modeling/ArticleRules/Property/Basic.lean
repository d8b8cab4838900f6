import ArticleRules.Property.Getter

/-
This file defines named properties: what is extracted from a node, and how.
-/

namespace ArticleRules

/-- A property says how one named value is extracted from a node. -/
structure Property where
  name : String
  getter : Getter
  selector : Selector
  attributeName : Option String

namespace Property

/-- The getter is looked up first, then its attribute is checked, and the selector is read last. -/
def build (table : GetterTable) (name getterName selector : String) (attributeName : Option String) :
    Except Error Property := do
  let getter ← table.get getterName
  if getter.needsAttribute && attributeName.isNone then
    throw (.misconfigured (.noAttribute name getterName))
  return ⟨name, getter, ← Selector.read selector, attributeName⟩

def value? (property : Property) (place : Place) : Option PropertyValue :=
  property.getter.extract property.selector property.attributeName place

end Property

end ArticleRules
