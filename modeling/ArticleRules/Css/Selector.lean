import ArticleRules.Text.Lowercase

/-
This file defines compiled selectors. A complex selector is a chain of compounds joined by
combinators, and a compound is a list of simple tests on one element.
-/

namespace ArticleRules.Css

inductive Combinator where
  | descendant
  | child
  | nextSibling
  | laterSibling
  deriving DecidableEq, Repr

/-- Names are compared in small letters on elements of HTML and as written elsewhere. -/
structure Name where
  written : String
  small : String
  deriving DecidableEq, Repr

def Name.of (written : String) : Name :=
  ⟨written, Text.lowercaseAscii written⟩

inductive AttributeOperator where
  | equal
  | includes
  | dash
  | starts
  | ends
  | contains
  deriving DecidableEq, Repr

/-- Letter case is compared exactly, loosely, or loosely on elements of HTML only. -/
inductive LetterCase where
  | exact
  | loose
  | looseInHtml
  deriving DecidableEq, Repr

structure ValueTest where
  operator : AttributeOperator
  value : String
  letterCase : LetterCase
  deriving DecidableEq, Repr

structure AttributeTest where
  anyNamespace : Bool
  name : Name
  value : Option ValueTest
  deriving DecidableEq, Repr

/-- The positions that are a multiple of the step away from the offset, counted upwards from it. -/
structure Progression where
  step : Int
  offset : Int
  deriving DecidableEq, Repr

/-- Siblings are counted from either end, all of them or only those of the same type. -/
structure Counting where
  fromEnd : Bool
  sameType : Bool
  deriving DecidableEq, Repr

mutual

inductive Simple where
  | universal
  | withoutNamespace
  | type (name : Name)
  | identifier (name : String)
  | classed (name : String)
  | attributed (test : AttributeTest)
  | root
  | empty
  | scope
  | anchor
  | positioned (counting : Counting) (progression : Progression)
  | anyOf (alternatives : List Complex)
  | noneOf (alternatives : List Complex)
  | having (alternatives : List Complex)
  | never

/-- The compound that the selected element itself satisfies is the last one. -/
inductive Complex where
  | compound (tests : List Simple)
  | joined (left : Complex) (combinator : Combinator) (tests : List Simple)

end

/-- An element matches a list of selectors if it matches one of them. -/
abbrev SelectorList := List Complex

end ArticleRules.Css
