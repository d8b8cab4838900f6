/-
This file writes text with entities in place of the characters that markup gives a meaning.
-/

namespace ArticleRules.Text

def noBreakSpace : Char := Char.ofNat 0xA0

/-- The entity of a character, or the character itself where it has none. -/
def entity (character : Char) : List Char :=
  if character == '&' then "&amp;".toList
  else if character == '<' then "&lt;".toList
  else if character == '>' then "&gt;".toList
  else if character == '"' then "&quot;".toList
  else if character == noBreakSpace then "&nbsp;".toList
  else [character]

/-- Only the reserved characters are replaced by their entities. -/
def escapeCharacters (reserved : List Char) (characters : List Char) : List Char :=
  characters.flatMap fun character => if reserved.contains character then entity character else [character]

def escape (reserved : List Char) (text : String) : String :=
  String.ofList (escapeCharacters reserved text.toList)

end ArticleRules.Text
