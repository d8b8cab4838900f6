import ArticleRules.Rule.Effect

/-
This file defines the walk over the children of a node, and the converter that holds the rules and the
warnings of the walks so far.
-/

namespace ArticleRules

/-- Visits one node with the given walk. The node is passed over, given to the rule that matches it, or
reported. -/
def visit (rules : List Rule) (walker : Element → Place → Walk Element) (context : Element)
    (place : Place) : Walk Element :=
  if place.node.isSkippable then pure context
  else
    match Rule.findMatch rules context.kind place with
    | some rule => rule.apply walker context place
    | none => do
      Walk.warn context place
      pure context

/-- Visits the children of a node one level deeper, where there is room for so many levels. -/
def walkWithin (rules : List Rule) (limit room : Nat) (context : Element) (place : Place) : Walk Element :=
  match room with
  | 0 => throw (.depthExceeded limit)
  | room + 1 =>
    Walk.nested limit (place.children.foldlM (visit rules (walkWithin rules limit room)) context)

/-- Visits the children of a node one level deeper. The limit leaves room for the levels up to it. -/
def walkBelow (rules : List Rule) (limit : Nat) (context : Element) (place : Place) : Walk Element := do
  walkWithin rules limit (limit - (← get).depth) context place

/-- A converter has rules, lowest priority first, and what its walks remember. -/
structure Converter where
  rules : List Rule := []
  maxDepth : Nat := 256
  state : WalkState := {}

namespace Converter

def warnings (converter : Converter) : List Warning :=
  converter.state.warnings

/-- A new rule takes priority over all rules before it. -/
def addRule (converter : Converter) (rule : Rule) : Converter :=
  { converter with rules := converter.rules ++ [rule] }

def addRules (converter : Converter) (rules : List Rule) : Converter :=
  { converter with rules := converter.rules ++ rules }

/-- A converter with the same rules and a state of its own. -/
def fork (converter : Converter) (maxDepth : Nat) : Converter :=
  { rules := converter.rules, maxDepth }

/-- Hands out the warnings so far and forgets them. -/
def takeWarnings (converter : Converter) : List Warning × Converter :=
  (converter.warnings, { converter with state := { converter.state with warnings := [] } })

/-- Runs a walk from the state of the converter. -/
def run (converter : Converter) (walk : Walk α) : Except Error α × Converter :=
  let (result, state) := walk.run converter.state
  (result, { converter with state })

/-- The walk over the children of the node at a place. -/
def walk (converter : Converter) (context : Element) (place : Place) : Walk Element :=
  walkBelow converter.rules converter.maxDepth context place

/-- Converts the children of a node into the context. Warnings stay with the converter. -/
def transform (converter : Converter) (context : Element) (place : Place) :
    Except Error Element × Converter :=
  converter.run (converter.walk context place)

/-- Converts the children of a node and hands out all warnings, unless the walk fails. -/
def convert (converter : Converter) (context : Element) (place : Place) :
    Except Error (Element × List Warning) × Converter :=
  match converter.transform context place with
  | (.error error, converter) => (.error error, converter)
  | (.ok element, converter) =>
    let (warnings, converter) := converter.takeWarnings
    (.ok (element, warnings), converter)

def transformDocument (converter : Converter) (context : Element) (tree : Node) :
    Except Error Element × Converter :=
  converter.transform context (.root tree)

def convertDocument (converter : Converter) (context : Element) (tree : Node) :
    Except Error (Element × List Warning) × Converter :=
  converter.convert context (.root tree)

/-- Applies one rule to a node, whether it matches or not. -/
def applyRule (converter : Converter) (rule : Rule) (context : Element) (place : Place) :
    Except Error Element × Converter :=
  converter.run (rule.apply converter.walk context place)

end Converter

end ArticleRules
