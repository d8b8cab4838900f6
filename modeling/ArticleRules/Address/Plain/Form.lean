import ArticleRules.Address.Plain.Ideographs
import ArticleRules.Address.Plain.Letters
import ArticleRules.Address.Plain.Presentation
import ArticleRules.Address.Plain.Supplementary
import ArticleRules.Text.Lowercase
import ArticleRules.Text.Unassigned

/-
This file tells what the characters of a domain name stand for. Capital letters, ligatures and other
variants stand for plain letters, some characters do not count, and some may not be used.
-/

namespace ArticleRules.Address

/-- The characters that do not count in a domain name: soft hyphens, fillers and other characters without
a shape, and selectors between variants of a character. -/
def ignoredRanges : List (Nat × Nat) :=
  [(0xAD, 0xAD), (0x34F, 0x34F), (0x115F, 0x1160), (0x17B4, 0x17B5), (0x180B, 0x180F), (0x200B, 0x200B),
   (0x2060, 0x2064), (0x206A, 0x206F), (0x3164, 0x3164), (0xFE00, 0xFE0F), (0xFEFF, 0xFEFF),
   (0xFFA0, 0xFFA0), (0x1BCA0, 0x1BCA3), (0x1D173, 0x1D17A), (0xE0100, 0xE01EF)]

/-- The characters that may not be used in a domain name: controls, private characters, and those whose
plain form would hold a full stop. -/
def excludedRanges : List (Nat × Nat) :=
  [(0x80, 0x9F), (0x600, 0x605), (0x61C, 0x61C), (0x6DD, 0x6DD), (0x70F, 0x70F), (0x890, 0x891),
   (0x8E2, 0x8E2), (0x1680, 0x1680), (0x200E, 0x200F), (0x2024, 0x2026), (0x2028, 0x202E), (0x2066, 0x2069),
   (0x2488, 0x249B), (0x2FF0, 0x2FFF), (0x31EF, 0x31EF), (0x33C2, 0x33C2), (0x33C7, 0x33C7),
   (0x33D8, 0x33D8), (0xE000, 0xF8FF), (0xFE12, 0xFE12), (0xFE19, 0xFE19), (0xFE30, 0xFE30),
   (0xFE52, 0xFE52), (0xFFF9, 0xFFFD), (0x110BD, 0x110BD), (0x110CD, 0x110CD), (0x13430, 0x1343F),
   (0x1F100, 0x1F100), (0xE0001, 0xE0001), (0xE0020, 0xE007F), (0xF0000, 0xFFFFD), (0x100000, 0x10FFFD)]

def isExcluded (character : Char) : Bool :=
  Text.isUnassigned character || Text.isWithin excludedRanges character

/-- The Cherokee letters, of which the capitals are the plain ones. -/
def isCherokeeCapital (character : Char) : Bool :=
  0x13A0 ≤ character.toNat && character.toNat ≤ 0x13F5

def plainTable (character : Char) : List Text.Replacements :=
  let code := character.toNat
  if code < 0x2E80 then plainLetters
  else if code < 0xFB00 then plainIdeographs
  else if code < 0x10000 then plainPresentation
  else plainSupplementary

/-- What a character stands for, if it may be used. -/
def plainForm? (character : Char) : Option (List Char) :=
  if character.toNat < 0x80 then some [character.toLower]
  else if Text.isWithin ignoredRanges character then some []
  else if isExcluded character then none
  else if isCherokeeCapital character then some [character]
  else some ((Text.replacement? (plainTable character) character).getD (Text.smallLetters character))

/-- A plain character stands for itself. -/
def isPlain (character : Char) : Bool :=
  plainForm? character == some [character]

end ArticleRules.Address
