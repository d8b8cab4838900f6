import ArticleRules.Address.Plain.Form
import ArticleRules.Address.Punycode
import ArticleRules.Text.Joining
import ArticleRules.Text.NormalForm

/-
This file checks the labels of a domain name, which are its parts between full stops. A label with
letters beyond ASCII may be written with digits for them after a mark.
-/

namespace ArticleRules.Address

/-- The most digits that are decoded after the mark. -/
def longestCode : Nat := 2000

/-- The most letters of a label that has letters beyond ASCII. -/
def longestLabel : Nat := 1000

/-- A coded label stands for plain letters in normal form. -/
def decodedLabel? (code : List Char) : Option (List Char) :=
  if code.length ≤ longestCode then
    (decodeLabel? code).filter fun letters =>
      letters.all isPlain && Text.normalForm letters == letters
  else none

/-- The letters of a label that may be written after a mark. -/
def labelLetters? : List Char → Option (List Char)
  | 'x' :: 'n' :: '-' :: '-' :: code => decodedLabel? code
  | label => some label

def zeroWidthJoiner : Char := Char.ofNat 0x200D

def zeroWidthNonJoiner : Char := Char.ofNat 0x200C

/-- The nearest character that is no mark is one that is joined. -/
def reachesJoined (isJoined : Char → Bool) (characters : List Char) : Bool :=
  (characters.find? fun character => isJoined character || !Text.isPassedOver character).any isJoined

/-- An invisible joiner follows a virama, and a non-joiner may also separate letters that would be
joined. The characters before are given nearest first. -/
def joinerBelongs (before : List Char) (joiner : Char) (after : List Char) : Bool :=
  before.head?.any Text.isVirama ||
    (joiner == zeroWidthNonJoiner && reachesJoined Text.joinsNext before &&
      reachesJoined Text.joinsPrevious after)

def joinersBelong (before : List Char) : List Char → Bool
  | [] => true
  | character :: rest =>
    let isJoiner := character == zeroWidthJoiner || character == zeroWidthNonJoiner
    (!isJoiner || joinerBelongs before character rest) && joinersBelong (character :: before) rest

/-- A label does not start with a mark, joins only what can be joined, and is not too long. -/
def isValidLabel (letters : List Char) : Bool :=
  !letters.head?.any Text.isMark && joinersBelong [] letters &&
    (letters.all (·.toNat < 0x80) || letters.length ≤ longestLabel)

end ArticleRules.Address
