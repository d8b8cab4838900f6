import ArticleRules.Css.Selector
import ArticleRules.Tree.Place

/-
This file says which elements a selector matches. Only elements match, and siblings and ancestors
that are no elements are passed over or end the search.
-/

namespace ArticleRules

namespace Place

/-- The unbroken chain of elements above a place, innermost first. -/
def ancestorElements (place : Place) : List Place :=
  chain place.above
where
  chain : List Step → List Place
    | [] => []
    | step :: above => if step.parent.isElement then ⟨step.parent, above⟩ :: chain above else []

/-- The elements among the siblings before a place, nearest first. -/
def earlierElements (place : Place) : List Place :=
  place.earlierSiblings.filter Place.isElement

/-- The elements among the siblings after a place, nearest first. -/
def laterElements (place : Place) : List Place :=
  place.laterSiblings.filter Place.isElement

/-- A root element stands directly below a document. -/
def isRootElement (place : Place) : Bool :=
  match place.parent? with
  | some ⟨.document _, _⟩ => true
  | _ => false

end Place

namespace Css

/-- White space inside attribute values separates words. -/
def isSeparator (character : Char) : Bool :=
  character == ' ' || character == '\t' || character == '\n' || character == '\r' ||
    character == Char.ofNat 0x0C

/-- The word at the start of the text and the words after it. -/
def wordsFrom : List Char → List Char × List (List Char)
  | [] => ([], [])
  | character :: rest =>
    let (word, others) := wordsFrom rest
    if isSeparator character then ([], if word.isEmpty then others else word :: others)
    else (character :: word, others)

/-- The words of an attribute value. None of them is empty. -/
def words (text : String) : List String :=
  let (word, others) := wordsFrom text.toList
  (if word.isEmpty then others else word :: others).map String.ofList

def occursIn (part : List Char) : List Char → Bool
  | [] => part.isEmpty
  | character :: rest => part.isPrefixOf (character :: rest) || occursIn part rest

/-- Empty parts occur nowhere. -/
def AttributeOperator.accepts (operator : AttributeOperator) (wanted actual : String) : Bool :=
  let part := wanted.toList
  let whole := actual.toList
  match operator with
  | .equal => wanted == actual
  | .includes => (words actual).contains wanted
  | .dash => wanted == actual || (part ++ ['-']).isPrefixOf whole
  | .starts => !part.isEmpty && part.isPrefixOf whole
  | .ends => !part.isEmpty && part.isSuffixOf whole
  | .contains => !part.isEmpty && occursIn part whole

def ValueTest.accepts (test : ValueTest) (html : Bool) (actual : String) : Bool :=
  let loose :=
    match test.letterCase with
    | .exact => false
    | .loose => true
    | .looseInHtml => html
  if loose then test.operator.accepts (Text.lowercaseAscii test.value) (Text.lowercaseAscii actual)
  else test.operator.accepts test.value actual

/-- The spelling of a name that an element of the given kind is compared with. -/
def Name.on (name : Name) (tag : Tag) : String :=
  if tag.isHtml then name.small else name.written

def AttributeTest.holds (test : AttributeTest) (tag : Tag) : Bool :=
  tag.attributes.any fun candidate =>
    (test.anyNamespace || candidate.space == "") && candidate.localName == test.name.on tag &&
      test.value.all fun value => value.accepts tag.isHtml candidate.value

/-- Only the first identifier of an element counts. -/
def hasIdentifier (tag : Tag) (name : String) : Bool :=
  (tag.attributes.find? (·.localName == "id")).any (·.value == name)

def hasClass (tag : Tag) (name : String) : Bool :=
  tag.attributes.any fun candidate =>
    candidate.localName == "class" && (words candidate.value).contains name

/-- An element counts as empty if it holds neither elements nor text. -/
def isEmptyElement (node : Node) : Bool :=
  node.children.all fun child =>
    match child with
    | .element _ _ | .text _ => false
    | _ => true

def haveSameType (first second : Place) : Bool :=
  match first.node.tag?, second.node.tag? with
  | some left, some right => left.localName == right.localName && left.space == right.space
  | _, _ => false

/-- Distances beyond 32 bits lie outside every progression. -/
def Progression.contains (progression : Progression) (position : Nat) : Bool :=
  let distance := (position : Int) - progression.offset
  if 2147483647 < distance then false
  else if progression.step = 0 then distance = 0
  else
    let times := distance.tdiv progression.step
    0 ≤ times && progression.step * times = distance

/-- The position of an element among its siblings starts at one. -/
def Counting.position (counting : Counting) (place : Place) : Nat :=
  let siblings := if counting.fromEnd then place.laterElements else place.earlierElements
  (if counting.sameType then siblings.filter (haveSameType place) else siblings).length + 1

/-- The elements that a combinator leads to from the element on its right. -/
def Combinator.candidates (combinator : Combinator) (place : Place) : List Place :=
  match combinator with
  | .descendant => place.ancestorElements
  | .child => place.ancestorElements.take 1
  | .nextSibling => place.earlierElements.take 1
  | .laterSibling => place.earlierElements

/-- The elements that a relative selector can reach: those below a place and below its later siblings. -/
def reach (place : Place) : List Place :=
  (place.descendants ++ place.laterSiblings.flatMap fun sibling => sibling :: sibling.descendants).filter
    Place.isElement

/-- The places that a selector may refer to: where a search began, and what a relative one starts from. -/
structure Focus where
  scope : Option Place
  anchor : Option Place

/-- Without a search the scope is the root element. -/
def Focus.isScope (focus : Focus) (place : Place) : Bool :=
  match focus.scope with
  | some scope => place.same scope
  | none => place.isRootElement

mutual

/-- A simple test on the element with the given tag. -/
def Simple.holds (focus : Focus) (place : Place) (tag : Tag) : Simple → Bool
  | .universal => true
  | .withoutNamespace => tag.space == ""
  | .type name => tag.localName == name.on tag
  | .identifier name => hasIdentifier tag name
  | .classed name => hasClass tag name
  | .attributed test => test.holds tag
  | .root => place.isRootElement
  | .empty => isEmptyElement place.node
  | .scope => focus.isScope place
  | .anchor => focus.anchor.any place.same
  | .positioned counting progression => progression.contains (counting.position place)
  | .anyOf alternatives => anyHolds focus alternatives place
  | .noneOf alternatives => !anyHolds focus alternatives place
  | .having alternatives => (reach place).any fun found => anyHolds ⟨focus.scope, some place⟩ alternatives found
  | .never => false

def allHold (focus : Focus) (place : Place) (tag : Tag) : List Simple → Bool
  | [] => true
  | test :: rest => test.holds focus place tag && allHold focus place tag rest

/-- The last compound is tested on the element itself, and the rest where its combinator leads. -/
def Complex.holds (focus : Focus) (selector : Complex) (place : Place) : Bool :=
  match selector, place.node.tag? with
  | _, none => false
  | .compound tests, some tag => allHold focus place tag tests
  | .joined left combinator tests, some tag =>
    allHold focus place tag tests && (combinator.candidates place).any fun other => left.holds focus other

def anyHolds (focus : Focus) (selectors : List Complex) (place : Place) : Bool :=
  match selectors with
  | [] => false
  | selector :: rest => selector.holds focus place || anyHolds focus rest place

end

end Css

end ArticleRules
