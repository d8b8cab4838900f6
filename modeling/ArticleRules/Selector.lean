import ArticleRules.Css.Grammar
import ArticleRules.Css.Matching
import ArticleRules.Error
import ArticleRules.Text.Blank

/-
This file defines the selectors of rules and properties: the node itself, or a style sheet selector.
A search tests the node itself before everything below it.
-/

namespace ArticleRules

inductive Selector where
  | itself
  | css (source : String) (compiled : Css.SelectorList)

namespace Selector

/-- The spelling of the selector of the node itself. -/
def itselfName : String := "self"

/-- Blank text selects the node itself. -/
def read (text : String) : Except Error Selector :=
  let source := Text.trim text
  if source == "" || source == itselfName then .ok itself
  else
    match Css.parse source with
    | .ok compiled => .ok (css source compiled)
    | .error fault => .error (.invalidSelector source fault)

def text : Selector → String
  | itself => itselfName
  | css source _ => source

/-- Only elements match. -/
def matchesAt (selector : Selector) (place : Place) : Bool :=
  match selector with
  | itself => place.isElement
  | css _ compiled => Css.anyHolds ⟨none, none⟩ compiled place

/-- All places that satisfy the selector, in document order, starting with the given one. Below it, the
scope is the given place. -/
def findAll (selector : Selector) (place : Place) : List Place :=
  match selector with
  | itself => [place]
  | css _ compiled =>
    if place.isElement then
      let below := place.descendants.filter (Css.anyHolds ⟨some place, none⟩ compiled)
      if selector.matchesAt place then place :: below else below
    else []

/-- The first place that satisfies the selector, starting with the given one. -/
def findFirst (selector : Selector) (place : Place) : Option Place :=
  match selector with
  | itself => some place
  | css _ compiled =>
    if !place.isElement then none
    else if selector.matchesAt place then some place
    else place.descendants.find? (Css.anyHolds ⟨some place, none⟩ compiled)

end Selector

end ArticleRules
