import ArticleRules.Element.Basic
import ArticleRules.Tree.Markup

/-
This file defines what a walk over a tree remembers: how deep it is nested and which nodes no rule
matched. Both outlive a failure of the walk.
-/

namespace ArticleRules

/-- A warning keeps the context as it was when the node was visited, and how deep the walk was. -/
structure Warning where
  context : Element
  place : Place
  nodeName : String
  markup : String
  depth : Nat

namespace Warning

def unrecognized (context : Element) (place : Place) (depth : Nat) : Warning :=
  ⟨context, place, place.node.name, place.markup, depth⟩

def message (warning : Warning) : String :=
  "Unrecognized " ++ warning.nodeName ++ " in " ++ warning.context.kind.name ++ " context (depth " ++
    toString warning.depth ++ "): " ++ warning.markup

end Warning

structure WalkState where
  depth : Nat := 0
  warnings : List Warning := []

abbrev Walk := ExceptT Error (StateM WalkState)

namespace Walk

def ofExcept (result : Except Error α) : Walk α :=
  match result with
  | .ok value => return value
  | .error error => throw error

/-- Records that no rule matched the node. -/
def warn (context : Element) (place : Place) : Walk Unit :=
  modify fun state =>
    { state with warnings := state.warnings ++ [.unrecognized context place state.depth] }

/-- Runs a walk and hands on its result, be it an error. -/
def observe (walk : Walk α) : Walk (Except Error α) :=
  ExceptT.mk do return .ok (← walk.run)

/-- Goes one level deeper for the given walk and comes back also if it fails. -/
def nested (limit : Nat) (inner : Walk α) : Walk α := do
  if limit ≤ (← get).depth then throw (.depthExceeded limit)
  ExceptT.mk do
    modify fun state => { state with depth := state.depth + 1 }
    let result ← inner.run
    modify fun state => { state with depth := state.depth - 1 }
    return result

end Walk

end ArticleRules
