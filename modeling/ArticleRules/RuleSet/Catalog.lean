import ArticleRules.RuleSet.Entry
import ArticleRules.Walk.Converter

/-
This file builds rules from rule sets. A catalog says which factory builds the rules of a class, and a
rule set is registered with a converter as a whole or not at all.
-/

namespace ArticleRules

/-- A factory builds a rule from its entry and the getters that properties may name. -/
abbrev RuleFactory := RuleEntry → GetterTable → Except Error Rule

namespace RuleFactory

def metadata : RuleFactory := fun entry table => do
  Rule.metadata? (← entry.pattern table
    [PropertyName.canonical, PropertyName.charset, PropertyName.markupVersion, PropertyName.automaticAds])

def header : RuleFactory := fun entry table =>
  return .header (← entry.pattern table [])

def headerTitle : RuleFactory := fun entry table =>
  return .headerTitle (← entry.pattern table [])

def headerKicker : RuleFactory := fun entry table =>
  return .headerKicker (← entry.pattern table [])

def interactive : RuleFactory := fun entry table => do
  Rule.interactive? (← entry.pattern table
    [PropertyName.iframe, PropertyName.url, PropertyName.noMargin, PropertyName.columnWidth,
     PropertyName.height, PropertyName.interactiveCaption])

def video : RuleFactory := fun entry table => do
  Rule.video? (← entry.pattern table
    [PropertyName.videoUrl, PropertyName.videoType, PropertyName.presentation, PropertyName.controls,
     PropertyName.autoplay, PropertyName.videoCaption])

def caption : RuleFactory := fun entry table => do
  let pattern ← entry.pattern table [PropertyName.captionTitle, PropertyName.captionCredit]
  return .caption pattern (← entry.contextOr .interactive)

def passThrough : RuleFactory := fun entry table => do
  let pattern ← entry.pattern table []
  return .passThrough pattern (← entry.contextOr .article)

def ignore : RuleFactory := fun entry table => do
  let pattern ← entry.pattern table []
  return .ignore pattern (← entry.contextOr .article)

end RuleFactory

structure RuleCatalog where
  factories : NameMap RuleFactory

namespace RuleCatalog

def empty : RuleCatalog :=
  ⟨.empty⟩

/-- A new factory replaces the one with its name. -/
def register (catalog : RuleCatalog) (name : String) (factory : RuleFactory) : RuleCatalog :=
  ⟨catalog.factories.insert name factory⟩

/-- Every rule of the library is built under its own name. -/
def builtIn : RuleCatalog :=
  empty
    |>.register RuleName.metadata RuleFactory.metadata
    |>.register RuleName.header RuleFactory.header
    |>.register RuleName.headerTitle RuleFactory.headerTitle
    |>.register RuleName.headerKicker RuleFactory.headerKicker
    |>.register RuleName.interactive RuleFactory.interactive
    |>.register RuleName.video RuleFactory.video
    |>.register RuleName.caption RuleFactory.caption
    |>.register RuleName.passThrough RuleFactory.passThrough
    |>.register RuleName.ignore RuleFactory.ignore

/-- The part of a class name after its namespaces, which end in backslashes. -/
def shortName (name : String) : String :=
  String.ofList (name.toList.reverse.takeWhile (· != '\\')).reverse

def contains (catalog : RuleCatalog) (name : String) : Bool :=
  catalog.factories.contains (shortName name)

/-- Builds the rule of an entry with the factory of its class. -/
def build (catalog : RuleCatalog) (entry : RuleEntry) (table : GetterTable) : Except Error Rule :=
  match catalog.factories.find? (shortName entry.ruleClass) with
  | some factory => factory entry table
  | none => .error (.unknownRule entry.ruleClass)

/-- A catalog is shown with the names of its factories. -/
def display (catalog : RuleCatalog) : String :=
  "RuleFactories \x7b names: [" ++ ", ".intercalate (catalog.factories.names.map Text.quote) ++ "] \x7d"

end RuleCatalog

/-- Registers the rules of a set in order. All rules are built before any is registered. -/
def Converter.register (converter : Converter) (rules : RuleSet) (catalog : RuleCatalog)
    (table : GetterTable) : Except Error Converter := do
  return converter.addRules (← rules.rules.mapM (catalog.build · table))

end ArticleRules
