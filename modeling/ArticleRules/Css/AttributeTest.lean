import ArticleRules.Css.QualifiedName

/-
This file reads tests of attributes: a name, and optionally an operator, a value and a letter that says
how letter case is compared.
-/

namespace ArticleRules.Css

open Reader

/-- The attributes of HTML whose values are compared without regard to letter case. -/
def looseAttributes : List String :=
  ["accept", "accept-charset", "align", "alink", "axis", "bgcolor", "charset", "checked", "clear",
   "codetype", "color", "compact", "declare", "defer", "dir", "direction", "disabled", "enctype", "face",
   "frame", "hreflang", "http-equiv", "lang", "language", "link", "media", "method", "multiple", "nohref",
   "noresize", "noshade", "nowrap", "readonly", "rel", "rev", "rules", "scope", "scrolling", "selected",
   "shape", "target", "text", "type", "valign", "valuetype", "vlink"]

def attributeOperator : Token → Option AttributeOperator
  | .delim '=' => some .equal
  | .includeMatch => some .includes
  | .dashMatch => some .dash
  | .startMatch => some .starts
  | .endMatch => some .ends
  | .substringMatch => some .contains
  | _ => none

/-- Reads the letter after the value of an attribute test. Without one the name decides. -/
def letterCase (anyNamespace : Bool) (name : Name) : Reader LetterCase := do
  skipBlanks
  match ← get with
  | [] => return if !anyNamespace && looseAttributes.contains name.small then .looseInHtml else .exact
  | component :: rest =>
    set rest
    match component.token with
    | .ident letter =>
      if Text.lowercaseAscii letter == "i" then return .loose
      else if Text.lowercaseAscii letter == "s" then return .exact
      else throw (.unexpectedToken component.token)
    | token => throw (.unexpectedToken token)

/-- Reads an attribute test from the content of its brackets. -/
def attributeTest : Reader AttributeTest := do
  skipBlanks
  match ← qualifiedName true with
  | .error token => throw (.attributeNameExpected token)
  | .ok qualified =>
    let name := Name.of (qualified.name.getD "")
    let anyNamespace := qualified.space matches .any
    skipBlanks
    match ← get with
    | [] => return ⟨anyNamespace, name, none⟩
    | component :: rest =>
      set rest
      match attributeOperator component.token with
      | none => throw (.attributeOperatorExpected component.token)
      | some operator =>
        match (← take).token with
        | .ident value | .quoted value =>
          return ⟨anyNamespace, name, some ⟨operator, value, ← letterCase anyNamespace name⟩⟩
        | token => throw (.attributeValueExpected token)

end ArticleRules.Css
