import ArticleRules.Text.Unprintable

/-
This file quotes text for messages. Quotation marks and backslashes are escaped, line ends and tabs
have their short escapes, and other unprintable characters are shown by their number.
-/

namespace ArticleRules.Text

/-- The number of a character stands in hexadecimal between braces. -/
def numberEscape (character : Char) : List Char :=
  "\\u\x7b".toList ++ Nat.toDigits 16 character.toNat ++ "\x7d".toList

/-- A character inside text that is quoted with the given mark. -/
def escapeForQuote (mark character : Char) : List Char :=
  if character == mark || character == '\\' then ['\\', character]
  else if character == '\x00' then "\\0".toList
  else if character == '\t' then "\\t".toList
  else if character == '\r' then "\\r".toList
  else if character == '\n' then "\\n".toList
  else if isUnprintable character then numberEscape character
  else [character]

def quoteWith (mark : Char) (characters : List Char) : List Char :=
  mark :: characters.flatMap (escapeForQuote mark) ++ [mark]

/-- Text is quoted with double marks. -/
def quote (text : String) : String :=
  String.ofList (quoteWith '"' text.toList)

/-- A single character is quoted with single marks. -/
def quoteCharacter (character : Char) : String :=
  String.ofList (quoteWith '\'' [character])

end ArticleRules.Text
