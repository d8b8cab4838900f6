/-
This file decodes the labels of domain names in which letters beyond ASCII are written as digits.
-/

namespace ArticleRules.Address

/-- Letters stand for the first twenty-six digits and figures for the last ten. -/
def codeDigit? (character : Char) : Option Nat :=
  let code := character.toNat
  if 0x61 ≤ code && code ≤ 0x7A then some (code - 0x61)
  else if 0x41 ≤ code && code ≤ 0x5A then some (code - 0x41)
  else if 0x30 ≤ code && code ≤ 0x39 then some (code - 0x30 + 26)
  else none

def shrinkDelta (delta steps : Nat) : Nat :=
  if 455 < delta then shrinkDelta (delta / 35) (steps + 36) else steps + 36 * delta / (delta + 38)
termination_by delta
decreasing_by omega

/-- The bias follows the size of the distance that was read last. -/
def adaptBias (delta count : Nat) (first : Bool) : Nat :=
  let damped := if first then delta / 700 else delta / 2
  shrinkDelta (damped + damped / count) 0

def digitThreshold (place bias : Nat) : Nat :=
  if place ≤ bias then 1 else if bias + 26 ≤ place then 26 else place - bias

/-- A distance is read digit by digit; it tells the next letter and where it is inserted. -/
structure Decoding where
  letters : List Char
  code : Nat := 128
  bias : Nat := 72
  position : Nat := 0
  distance : Nat := 0
  weight : Nat := 1
  place : Nat := 36

def Decoding.digit? (state : Decoding) (character : Char) : Option Decoding := do
  let digit ← codeDigit? character
  let distance := state.distance + digit * state.weight
  let threshold := digitThreshold state.place state.bias
  if threshold ≤ digit then
    let weight := state.weight * (36 - threshold)
    if UInt32.size ≤ weight then none
    else return { state with distance, weight, place := state.place + 36 }
  let count := state.letters.length + 1
  let reached := state.position + distance
  let code := state.code + reached / count
  if 0x10FFFF < code || (0xD800 ≤ code && code ≤ 0xDFFF) then none
  else
    let position := reached % count
    return {
      letters := state.letters.take position ++ Char.ofNat code :: state.letters.drop position
      code
      bias := adaptBias distance count (state.position = 0 && state.code = 128)
      position := position + 1 }

/-- The characters before the last hyphen, if there are any, and the digits after them. -/
def splitAtLastHyphen (characters : List Char) : List Char × List Char :=
  let after := (characters.reverse.takeWhile (· != '-')).reverse
  let before := characters.take (characters.length - after.length - 1)
  if before.isEmpty then ([], characters) else (before, after)

/-- The label is given without its mark. There is at least one letter beyond ASCII, and a distance that
breaks off makes the label invalid. -/
def decodeLabel? (characters : List Char) : Option (List Char) := do
  let (plain, digits) := splitAtLastHyphen characters
  if digits.isEmpty || plain.any (0x80 ≤ ·.toNat) then none
  let final ← digits.foldlM Decoding.digit? { letters := plain }
  if final.place = 36 then return final.letters else none

end ArticleRules.Address
