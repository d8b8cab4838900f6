import ArticleRules.NameMap
import ArticleRules.Property.Value
import ArticleRules.Selector

/-
This file defines how values are extracted from nodes. A getter is found by its name in a table, where
a later entry replaces an earlier one of the same name.
-/

namespace ArticleRules

/-- An extraction sees the selector of a property, its attribute if it names one, and the node. -/
abbrev Extraction := Selector → Option String → Place → Option PropertyValue

namespace Extraction

def attributeOf (place : Place) (name : String) : Option PropertyValue := do
  let tag ← place.node.tag?
  return .text (← tag.attribute? name)

/-- The text of the first match, or the value of its attribute if one is named. -/
def text : Extraction := fun selector attributeName place => do
  let found ← selector.findFirst place
  match attributeName with
  | some name => attributeOf found name
  | none => some (.text found.textContent)

def attributeValue : Extraction := fun selector attributeName place => do
  attributeOf (← selector.findFirst place) (← attributeName)

def children : Extraction := fun selector _ place => do
  return .nodes (← selector.findFirst place).children

def element : Extraction := fun selector _ place =>
  (selector.findFirst place).map .node

/-- True if there is a match, and no value otherwise. -/
def presence : Extraction := fun selector _ place =>
  (selector.findFirst place).map fun _ => .flag true

end Extraction

/-- A getter knows the name it goes by, and whether it needs an attribute. -/
structure Getter where
  name : String
  extract : Extraction
  needsAttribute : Bool

/-- The getters that properties may name. -/
structure GetterTable where
  getters : NameMap Getter

namespace GetterTable

def empty : GetterTable :=
  ⟨.empty⟩

/-- A new getter replaces the one with its name. -/
def register (table : GetterTable) (name : String) (extract : Extraction) (needsAttribute : Bool) :
    GetterTable :=
  ⟨table.getters.insert name ⟨name, extract, needsAttribute⟩⟩

def contains (table : GetterTable) (name : String) : Bool :=
  table.getters.contains name

def get (table : GetterTable) (name : String) : Except Error Getter :=
  match table.getters.find? name with
  | some getter => .ok getter
  | none => .error (.unknownGetter name)

/-- The built-in getters, where text has two names. -/
def builtIn : GetterTable :=
  empty
    |>.register "text" Extraction.text false
    |>.register "string" Extraction.text false
    |>.register "attribute" Extraction.attributeValue true
    |>.register "children" Extraction.children false
    |>.register "element" Extraction.element false
    |>.register "exists" Extraction.presence false

end GetterTable

/-- A getter is shown with its quoted name. -/
def Getter.display (getter : Getter) : String :=
  "Getter \x7b kind: " ++ Text.quote getter.name ++ " \x7d"

end ArticleRules
