import ArticleRules.Css.AttributeTest
import ArticleRules.Css.Progression

/-
This file reads selectors from components: simple tests, compounds, the combinators between them, and
lists with commas.
-/

namespace ArticleRules.Css

open Reader

/-- Reads a combinator. Blanks alone are one if anything follows them. -/
def combinator? : Reader (Option Combinator) := do
  let start ← get
  match start.dropWhile Component.isBlank with
  | [] =>
    set ([] : List Component)
    return none
  | component :: rest =>
    let found : Option Combinator :=
      match component with
      | .single (.delim '>') => some .child
      | .single (.delim '+') => some .nextSibling
      | .single (.delim '~') => some .laterSibling
      | _ => none
    match found with
    | some combinator =>
      set rest
      return combinator
    | none =>
      set (component :: rest)
      return if start.head?.any Component.isBlank then some .descendant else none

/-- The names that stand for pseudo-elements even after a single colon. -/
def pseudoElementNames : List String :=
  ["before", "after", "first-line", "first-letter"]

def counting? (name : String) : Option Counting :=
  match name with
  | "nth-child" => some ⟨false, false⟩
  | "nth-of-type" => some ⟨false, true⟩
  | "nth-last-child" => some ⟨true, false⟩
  | "nth-last-of-type" => some ⟨true, true⟩
  | _ => none

/-- The tests of a pseudo-class without arguments. -/
def plainPseudoClass? (name : String) : Option (List Simple) :=
  let edge := fun fromEnd sameType => Simple.positioned ⟨fromEnd, sameType⟩ ⟨0, 1⟩
  match name with
  | "first-child" => some [edge false false]
  | "last-child" => some [edge true false]
  | "only-child" => some [edge false false, edge true false]
  | "first-of-type" => some [edge false true]
  | "last-of-type" => some [edge true true]
  | "only-of-type" => some [edge false true, edge true true]
  | "root" => some [.root]
  | "empty" => some [.empty]
  | "scope" => some [.scope]
  | _ => none

/-- What the surroundings of a selector forbid in it. -/
structure Limits where
  pseudoElements : Bool := false
  combinators : Bool := false
  having : Bool := false

mutual

/-- The first token that no forgiving list passes over, in blocks at any depth. -/
def brokenToken? : Component → Option Token
  | .single token =>
    match token with
    | .badUrl _ | .badString _ | .closeParenthesis | .closeSquare | .closeCurly => some token
    | _ => none
  | .block _ content => brokenTokenAmong? content

def brokenTokenAmong? : List Component → Option Token
  | [] => none
  | component :: rest => (brokenToken? component).or (brokenTokenAmong? rest)

end

/-- The parts of a list between its commas. There is always at least one. -/
def splitAtCommas : List Component → List (List Component)
  | [] => [[]]
  | .single .comma :: rest => [] :: splitAtCommas rest
  | component :: rest =>
    match splitAtCommas rest with
    | part :: parts => (component :: part) :: parts
    | [] => [[component]]

/-- A bad member of a forgiving list matches nothing, unless the text itself is broken after it. -/
def forgiveMember (rest : List Component) : Except Fault Complex :=
  match brokenTokenAmong? rest with
  | some token => .error (.unexpectedToken token)
  | none => .ok (.compound [.never])

/-- One member of a list of selectors uses all the text between two commas. -/
def readMember (forgiving : Bool) (reader : Reader Complex) (content : List Component) : Except Fault Complex :=
  match reader.run content with
  | (.error fault, rest) => if forgiving then forgiveMember rest else .error fault
  | (.ok value, rest) =>
    match rest.find? (!·.isBlank) with
    | none => .ok value
    | some component =>
      if forgiving then forgiveMember rest else .error (.unexpectedToken component.token)

mutual

/-- Reads a pseudo-class with arguments. The fuel bounds how deep selectors nest in one another. -/
def functionalPseudoClass (fuel : Nat) (limits : Limits) (name : String) (content : List Component) :
    Reader (List Simple) := do
  match fuel with
  | 0 => throw .endOfText
  | fuel + 1 =>
    let small := Text.lowercaseAscii name
    let nested := fun forgiving relative (inner : Limits) =>
      liftM ((splitAtCommas content).mapM
        (readMember forgiving (complex fuel { inner with pseudoElements := true } relative)))
    match counting? small with
    | some counting => return [.positioned counting (← inside content progression)]
    | none =>
      if small == "is" || small == "where" then return [.anyOf (← nested true false limits)]
      else if small == "not" then return [.noneOf (← nested false false limits)]
      else if small == "has" then
        if limits.having then throw .notAllowedHere
        else return [.having (← nested false true { limits with having := true })]
      else if small == "host" then
        let _ ← inside content
          (complex fuel { limits with pseudoElements := true, combinators := true } false)
        return [.never]
      else throw (.unsupportedPseudo name)

/-- Reads one simple selector as the tests it stands for, if there is one. -/
def simple? (fuel : Nat) (limits : Limits) : Reader (Option (List Simple)) := do
  match fuel with
  | 0 => throw .endOfText
  | fuel + 1 =>
    match ← get with
    | .single (.idHash name) :: rest =>
      set rest
      return some [.identifier name]
    | .single (.delim '.') :: rest =>
      set rest
      match (← takeRaw).token with
      | .ident name => return some [.classed name]
      | token => throw (.classNameExpected token)
    | .block .openSquare content :: rest =>
      set rest
      return some [.attributed (← inside content attributeTest)]
    | .single .colon :: rest =>
      set rest
      let first ← takeRaw
      let doubled := first.token matches .colon
      let named ← if doubled then takeRaw else pure first
      let pseudoElement := fun name =>
        doubled || pseudoElementNames.contains (Text.lowercaseAscii name)
      let refuse := fun name =>
        throw (if limits.pseudoElements then Fault.notAllowedHere else .unsupportedPseudo name)
      match named with
      | .single (.ident name) =>
        if pseudoElement name then refuse name
        else
          match plainPseudoClass? (Text.lowercaseAscii name) with
          | some tests => return some tests
          | none => throw (.unsupportedPseudo name)
      | .block (.function name) content =>
        if pseudoElement name then refuse name
        else some <$> functionalPseudoClass fuel limits name content
      | other => throw (.pseudoNameExpected other.token)
    | _ => return none

/-- Reads simple selectors as long as they follow each other directly. -/
def simples (fuel : Nat) (limits : Limits) : Reader (List Simple) := do
  match fuel with
  | 0 => throw .endOfText
  | fuel + 1 =>
    match ← simple? fuel limits with
    | none => return []
    | some tests => return tests ++ (← simples fuel limits)

/-- Reads compounds and the combinators between them. What is already read stands to the left. -/
def chain (fuel : Nat) (limits : Limits) (left : Option (Complex × Combinator)) : Reader Complex := do
  match fuel with
  | 0 => throw .endOfText
  | fuel + 1 =>
    skipBlanks
    let tests := (← typeTests) ++ (← simples fuel limits)
    if tests.isEmpty then throw (if left.isSome then .danglingCombinator else .emptySelector)
    let read :=
      match left with
      | none => Complex.compound tests
      | some (before, combinator) => .joined before combinator tests
    match ← combinator? with
    | none => return read
    | some combinator =>
      if limits.combinators then throw .notAllowedHere
      else chain fuel limits (some (read, combinator))

/-- Reads one selector. A relative one starts from an anchor, by a combinator of its own choice. -/
def complex (fuel : Nat) (limits : Limits) (relative : Bool) : Reader Complex := do
  match fuel with
  | 0 => throw .endOfText
  | fuel + 1 =>
    skipBlanks
    if relative then
      let combinator := (← combinator?).getD .descendant
      chain fuel limits (some (.compound [.anchor], combinator))
    else chain fuel limits none

end

/-- Every token takes a character, so the length of the text bounds how deep selectors nest. -/
def parse (text : String) : Except Fault SelectorList :=
  (splitAtCommas (components text)).mapM (readMember false (complex (8 * text.length + 8) {} false))

end ArticleRules.Css
