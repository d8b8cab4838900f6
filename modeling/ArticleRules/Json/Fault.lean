import ArticleRules.Decimal.Layout
import ArticleRules.Text.Quoted

/-
This file lists what can be wrong with JSON text that is read into a known shape, where the fault
lies, and how it is worded.
-/

namespace ArticleRules.Json

/-- What was found where a value of another type was expected. -/
inductive Found where
  | null
  | flag (value : Bool)
  | integer (value : Int)
  | floating (value : Float)
  | text (value : String)
  | list
  | object

/-- Numbers show a decimal point from a hundred thousandth up to ten to the sixteenth, and an exponent
with its sign elsewhere. Of two shortest decimals equally near, the even one is written. -/
def floatingStyle : Decimal.Style :=
  { tie := .even
    isPositional := fun place => -5 ≤ place && place < 16
    isPointed := true
    risingSign := ['+'] }

def Found.words : Found → String
  | null => "null"
  | flag value => "boolean `" ++ (if value then "true" else "false") ++ "`"
  | integer value => "integer `" ++ toString value ++ "`"
  | floating value => "floating point `" ++ (Decimal.Signed.ofDouble value).write floatingStyle ++ "`"
  | text value => "string " ++ Text.quote value
  | list => "sequence"
  | object => "map"

inductive Problem where
  | endInValue
  | endInList
  | endInObject
  | endInText
  | valueExpected
  | wordExpected
  | colonExpected
  | listCommaExpected
  | objectCommaExpected
  | trailingComma
  | trailingCharacters
  | keyExpected
  | invalidNumber
  | numberOutOfRange
  | invalidEscape
  | escapeExpected
  | loneSurrogate
  | controlCharacter
  | wrongType (found : Found) (expected : String)
  | missingField (name : String)
  | duplicateField (name : String)
  | wrongLength (length : Nat) (expected : String)

def Problem.words : Problem → String
  | endInValue => "EOF while parsing a value"
  | endInList => "EOF while parsing a list"
  | endInObject => "EOF while parsing an object"
  | endInText => "EOF while parsing a string"
  | valueExpected => "expected value"
  | wordExpected => "expected ident"
  | colonExpected => "expected `:`"
  | listCommaExpected => "expected `,` or `]`"
  | objectCommaExpected => "expected `,` or `\x7d`"
  | trailingComma => "trailing comma"
  | trailingCharacters => "trailing characters"
  | keyExpected => "key must be a string"
  | invalidNumber => "invalid number"
  | numberOutOfRange => "number out of range"
  | invalidEscape => "invalid escape"
  | escapeExpected => "unexpected end of hex escape"
  | loneSurrogate => "lone leading surrogate in hex escape"
  | controlCharacter => "control character (\\u0000-\\u001F) found while parsing a string"
  | wrongType found expected => "invalid type: " ++ found.words ++ ", expected " ++ expected
  | missingField name => "missing field `" ++ name ++ "`"
  | duplicateField name => "duplicate field `" ++ name ++ "`"
  | wrongLength length expected => "invalid length " ++ toString length ++ ", expected " ++ expected

/-- Lines count from one, and columns count the bytes of the line up to the fault. -/
structure Fault where
  problem : Problem
  line : Nat
  column : Nat

def Fault.words (fault : Fault) : String :=
  fault.problem.words ++ " at line " ++ toString fault.line ++ " column " ++ toString fault.column

end ArticleRules.Json
