import ArticleRules.Css.Token

/-
This file lists what can be wrong with the text of a selector, and how each fault is worded.
-/

namespace ArticleRules.Css

inductive Fault where
  | endOfText
  | unexpectedToken (token : Token)
  | pseudoNameExpected (token : Token)
  | emptySelector
  | danglingCombinator
  | notAllowedHere
  | unsupportedPseudo (name : String)
  | unknownNamespace (name : String)
  | classNameExpected (token : Token)
  | attributeNameExpected (token : Token)
  | attributeBarExpected (token : Token)
  | attributeLocalNameExpected (token : Token)
  | attributeOperatorExpected (token : Token)
  | attributeValueExpected (token : Token)
  | typeNameExpected (token : Token)

namespace Fault

/-- Rare faults are worded by a fixed sentence and a description of the fault. -/
def report (description : String) : String :=
  "Unexpected error occurred. Please report this to the developer\n" ++ description

def reportName (label name : String) : String :=
  report (describePart 0 label (Text.quote name))

def reportToken (label : String) (token : Token) : String :=
  report (describePart 0 label (token.full 1))

def reason : Fault → String
  | endOfText => "Unexpected EOL"
  | unexpectedToken token => "Token " ++ Text.quote token.brief ++ " was not expected"
  | pseudoNameExpected token =>
    "Expected identity for pseudoelement, got " ++ Text.quote token.brief ++ " instead"
  | emptySelector => report "EmptySelector"
  | danglingCombinator => report "DanglingCombinator"
  | notAllowedHere => report "InvalidState"
  | unsupportedPseudo name => reportName "UnsupportedPseudoClassOrElement" name
  | unknownNamespace name => reportName "ExpectedNamespace" name
  | classNameExpected token => reportToken "ClassNeedsIdent" token
  | attributeNameExpected token => reportToken "NoQualifiedNameInAttributeSelector" token
  | attributeBarExpected token => reportToken "ExpectedBarInAttr" token
  | attributeLocalNameExpected token => reportToken "InvalidQualNameInAttr" token
  | attributeOperatorExpected token => reportToken "UnexpectedTokenInAttributeSelector" token
  | attributeValueExpected token => reportToken "BadValueInAttr" token
  | typeNameExpected token => reportToken "ExplicitNamespaceUnexpectedToken" token

end Fault

end ArticleRules.Css
