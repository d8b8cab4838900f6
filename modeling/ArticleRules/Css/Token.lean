import ArticleRules.Decimal.Layout
import ArticleRules.Text.Quoted

/-
This file defines the tokens of selector text and the two ways in which messages show them: briefly,
as in the text, or in full, with every field on a line of its own.
-/

namespace ArticleRules.Css

/-- A number is kept as written: whether it has a sign, its size, and its whole value if it has one. -/
structure Numeral where
  signed : Bool
  value : Float32
  whole : Option Int

inductive Token where
  | ident (name : String)
  | atKeyword (name : String)
  | hash (name : String)
  | idHash (name : String)
  | quoted (text : String)
  | url (text : String)
  | delim (character : Char)
  | number (numeral : Numeral)
  | percentage (numeral : Numeral)
  | dimension (numeral : Numeral) (unit : String)
  | whitespace (text : String)
  | colon
  | semicolon
  | comma
  | includeMatch
  | dashMatch
  | startMatch
  | endMatch
  | substringMatch
  | commentOpen
  | commentClose
  | function (name : String)
  | openParenthesis
  | openSquare
  | openCurly
  | badUrl (text : String)
  | badString (text : String)
  | closeParenthesis
  | closeSquare
  | closeCurly

/-- The brief form of a number has no exponent, and whole numbers have no point. -/
def briefStyle : Decimal.Style :=
  { tie := .upward, isPositional := fun _ => true, isPointed := false, risingSign := [] }

/-- The full form shows a decimal point from a ten thousandth up to ten to the sixteenth, and a bare
exponent elsewhere. -/
def fullStyle : Decimal.Style :=
  { tie := .upward
    isPositional := fun place => -4 ≤ place && place < 16
    isPointed := true
    risingSign := [] }

/-- A number with a sign gets a mark in front, which repeats the sign of a negative number. -/
def Numeral.brief (numeral : Numeral) : String :=
  let plain := (Decimal.Signed.ofSingle numeral.value).write briefStyle
  if !numeral.signed then plain
  else if numeral.value > 0 then "+" ++ plain
  else "-" ++ plain

namespace Token

/-- The brief form resembles the text of the token. -/
def brief : Token → String
  | ident name => name
  | atKeyword name => "@" ++ name
  | hash name | idHash name => "#" ++ name
  | quoted text => "\"" ++ text ++ "\""
  | url text => text
  | delim character => character.toString
  | number numeral => numeral.brief
  | percentage numeral => numeral.brief ++ "%"
  | dimension numeral unit => numeral.brief ++ unit
  | whitespace _ => " "
  | colon => ":"
  | semicolon => ";"
  | comma => ","
  | includeMatch => "~="
  | dashMatch => "|="
  | startMatch => "^="
  | endMatch => "$="
  | substringMatch => "*="
  | commentOpen => "<!--"
  | commentClose => "-->"
  | function name => name ++ "()"
  | openParenthesis => "<("
  | openSquare => "<["
  | openCurly => "<\x7b"
  | badUrl text => "<Bad URL " ++ Text.quote text ++ ">"
  | badString text => "<Bad String " ++ Text.quote text ++ ">"
  | closeParenthesis => "<)"
  | closeSquare => "<]"
  | closeCurly => "<\x7d"

end Token

/-- Full descriptions are indented by four blanks for every level of nesting. -/
def indent (level : Nat) : String :=
  String.ofList (List.replicate (4 * level) ' ')

/-- A description with one unnamed part puts the part on a line of its own. -/
def describePart (level : Nat) (name part : String) : String :=
  name ++ "(\n" ++ indent (level + 1) ++ part ++ ",\n" ++ indent level ++ ")"

/-- A description with named parts puts each on a line of its own. -/
def describeFields (level : Nat) (name : String) (fields : List (String × String)) : String :=
  let lines := fields.map fun (label, part) => indent (level + 1) ++ label ++ ": " ++ part ++ ",\n"
  name ++ " \x7b\n" ++ String.join lines ++ indent level ++ "\x7d"

/-- A percentage names its size differently from other numbers. -/
def Numeral.fields (level : Nat) (sizeLabel : String) (numeral : Numeral) : List (String × String) :=
  let whole :=
    match numeral.whole with
    | none => "None"
    | some value => describePart (level + 1) "Some" (toString value)
  [("has_sign", if numeral.signed then "true" else "false"),
   (sizeLabel, (Decimal.Signed.ofSingle numeral.value).write fullStyle),
   ("int_value", whole)]

namespace Token

/-- The full form names the kind of the token and shows its fields. -/
def full (level : Nat) : Token → String
  | ident name => describePart level "Ident" (Text.quote name)
  | atKeyword name => describePart level "AtKeyword" (Text.quote name)
  | hash name => describePart level "Hash" (Text.quote name)
  | idHash name => describePart level "IDHash" (Text.quote name)
  | quoted text => describePart level "QuotedString" (Text.quote text)
  | url text => describePart level "UnquotedUrl" (Text.quote text)
  | delim character => describePart level "Delim" (Text.quoteCharacter character)
  | number numeral => describeFields level "Number" (numeral.fields level "value")
  | percentage numeral => describeFields level "Percentage" (numeral.fields level "unit_value")
  | dimension numeral unit =>
    describeFields level "Dimension" (numeral.fields level "value" ++ [("unit", Text.quote unit)])
  | whitespace text => describePart level "WhiteSpace" (Text.quote text)
  | colon => "Colon"
  | semicolon => "Semicolon"
  | comma => "Comma"
  | includeMatch => "IncludeMatch"
  | dashMatch => "DashMatch"
  | startMatch => "PrefixMatch"
  | endMatch => "SuffixMatch"
  | substringMatch => "SubstringMatch"
  | commentOpen => "CDO"
  | commentClose => "CDC"
  | function name => describePart level "Function" (Text.quote name)
  | openParenthesis => "ParenthesisBlock"
  | openSquare => "SquareBracketBlock"
  | openCurly => "CurlyBracketBlock"
  | badUrl text => describePart level "BadUrl" (Text.quote text)
  | badString text => describePart level "BadString" (Text.quote text)
  | closeParenthesis => "CloseParenthesis"
  | closeSquare => "CloseSquareBracket"
  | closeCurly => "CloseCurlyBracket"

end Token

end ArticleRules.Css
