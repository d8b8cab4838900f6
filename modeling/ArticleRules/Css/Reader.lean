import ArticleRules.Css.Component
import ArticleRules.Css.Fault

/-
This file defines readers of components. A reader keeps the components that are left also when it fails,
because some lists forgive a bad member and go on where its reading stopped.
-/

namespace ArticleRules.Css

abbrev Reader := ExceptT Fault (StateM (List Component))

def Component.isBlank : Component → Bool
  | single (.whitespace _) => true
  | _ => false

namespace Reader

/-- Takes the next component, blanks included. -/
def takeRaw : Reader Component := do
  match ← get with
  | [] => throw .endOfText
  | component :: rest =>
    set rest
    return component

def skipBlanks : Reader Unit :=
  modify (·.dropWhile Component.isBlank)

/-- Takes the next component that is no blank. -/
def take : Reader Component := do
  skipBlanks
  takeRaw

/-- Reads the content of a block, all of which must be used. -/
def inside (content : List Component) (reader : Reader α) : Reader α :=
  match reader.run content with
  | (.error fault, _) => throw fault
  | (.ok value, rest) =>
    match rest.find? (!·.isBlank) with
    | some component => throw (.unexpectedToken component.token)
    | none => return value

end Reader

end ArticleRules.Css
