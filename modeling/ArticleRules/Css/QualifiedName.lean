import ArticleRules.Css.Reader
import ArticleRules.Css.Selector

/-
This file reads names that may be qualified by a namespace, which stands before a bar.
-/

namespace ArticleRules.Css

open Reader

/-- What stands before the bar of a qualified name. -/
inductive NamespaceTest where
  | unstated
  | any
  | absent

/-- A qualified name without a name stands for every name. -/
structure QualifiedName where
  space : NamespaceTest
  name : Option String

/-- Reads the name after a bar. -/
def nameAfterBar (inAttribute : Bool) (space : NamespaceTest) : Reader QualifiedName := do
  match (← takeRaw).token with
  | .ident name => return ⟨space, some name⟩
  | .delim '*' =>
    if inAttribute then throw (.attributeLocalNameExpected (.delim '*')) else return ⟨space, none⟩
  | token => throw (if inAttribute then .attributeLocalNameExpected token else .typeNameExpected token)

/-- Reads a qualified name. If there is none, nothing is taken and the next token is returned. -/
def qualifiedName (inAttribute : Bool) : Reader (Except Token QualifiedName) := do
  match ← get with
  | [] => throw .endOfText
  | .single (.ident name) :: .single (.delim '|') :: rest =>
    set rest
    throw (.unknownNamespace name)
  | .single (.ident name) :: rest =>
    set rest
    return .ok ⟨.unstated, some name⟩
  | .single (.delim '*') :: .single (.delim '|') :: rest =>
    set rest
    .ok <$> nameAfterBar inAttribute .any
  | .single (.delim '*') :: rest =>
    set rest
    if inAttribute then throw (.attributeBarExpected (← takeRaw).token)
    else return .ok ⟨.unstated, none⟩
  | .single (.delim '|') :: rest =>
    set rest
    .ok <$> nameAfterBar inAttribute .absent
  | component :: _ => return .error component.token

/-- Reads the tests of a type selector. There are none if the text ends before its name. -/
def typeTests : Reader (List Simple) := do
  let read ← tryCatch (Except.toOption <$> qualifiedName false) fun fault =>
    match fault with
    | .endOfText => return none
    | _ => throw fault
  match read with
  | none => return []
  | some qualified =>
    let name := qualified.name.elim Simple.universal fun name => .type (.of name)
    match qualified.space with
    | .absent => return [.withoutNamespace, name]
    | .unstated | .any => return [name]

end ArticleRules.Css
