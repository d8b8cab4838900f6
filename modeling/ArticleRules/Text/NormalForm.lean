import ArticleRules.Text.CombiningClass
import ArticleRules.Text.Decomposition

/-
This file writes text in normal form. A letter and its marks become one character where there is
one, and the marks that are left stand in the order of their classes.
-/

namespace ArticleRules.Text

/-- A Hangul syllable is a consonant and a vowel, or such a syllable and a trailing consonant. -/
def syllableParts? (character : Char) : Option (Char × Char) :=
  let code := character.toNat
  if 0xAC00 ≤ code && code ≤ 0xD7A3 then
    let index := code - 0xAC00
    if index % 28 = 0 then
      some (Char.ofNat (0x1100 + index / 588), Char.ofNat (0x1161 + index / 28 % 21))
    else some (Char.ofNat (code - index % 28), Char.ofNat (0x11A7 + index % 28))
  else none

def syllable? (first second : Char) : Option Char :=
  let left := first.toNat
  let right := second.toNat
  if 0x1100 ≤ left && left < 0x1113 && 0x1161 ≤ right && right < 0x1176 then
    some (Char.ofNat (0xAC00 + 588 * (left - 0x1100) + 28 * (right - 0x1161)))
  else if 0xAC00 ≤ left && left ≤ 0xD7A3 && (left - 0xAC00) % 28 = 0 && 0x11A7 < right && right < 0x11C3 then
    some (Char.ofNat (left + (right - 0x11A7)))
  else none

/-- Takes a character apart once, if it stands for two. -/
def takeApart (character : Char) : List Char :=
  match (syllableParts? character).orElse fun _ => parts? character with
  | some (first, second) => [first, second]
  | none => [character]

/-- Characters are taken apart the given number of times. -/
def decomposed : Nat → List Char → List Char
  | 0, characters => characters
  | depth + 1, characters => decomposed depth (characters.flatMap takeApart)

/-- No character consists of more than four. -/
def greatestDepth : Nat := 3

/-- A mark moves behind the marks of lower classes that follow it. -/
def placeMark (mark : Char) : List Char → List Char
  | [] => [mark]
  | next :: rest =>
    if 0 < combiningClass next && combiningClass next < combiningClass mark then
      next :: placeMark mark rest
    else mark :: next :: rest

def ordered (characters : List Char) : List Char :=
  characters.foldr placeMark []

/-- The single character for two. -/
def joined? (first second : Char) : Option Char :=
  if second.toNat < 0x300 then none
  else (syllable? first second).orElse fun _ => replacedBy? decompositions [first, second]

/-- A letter is joined with the marks after it. The marks that stay apart are kept nearest first, and
one of them hides the letter from the later marks of its class. -/
def composed (letter : Option Char) (marks : List Char) : List Char → List Char
  | [] => letter.toList ++ marks.reverse
  | character :: rest =>
    let hidden := marks.head?.any fun mark => combiningClass character ≤ combiningClass mark
    match if hidden then none else letter.bind (joined? · character) with
    | some whole => composed (some whole) marks rest
    | none =>
      if combiningClass character = 0 then
        letter.toList ++ marks.reverse ++ composed (some character) [] rest
      else composed letter (character :: marks) rest

def normalForm (characters : List Char) : List Char :=
  composed none [] (ordered (decomposed greatestDepth characters))

end ArticleRules.Text
