import ArticleRules.Json.Cursor

/-
This file reads numbers. A number without fraction and exponent is an integer as long as it fits 64
bits, and any other number is a floating point number.
-/

namespace ArticleRules.Json

def Reader.isDigit? (character : Option Char) : Bool :=
  character.any Char.isDigit

def largestUnsigned : Nat := UInt64.size - 1

/-- Digits are added to a number as long as it stays within 64 bits, and the others are left over. -/
def addDigits (value : Nat) : List Char → Nat × List Char
  | [] => (value, [])
  | digit :: rest =>
    let larger := 10 * value + (digit.toNat - '0'.toNat)
    if larger ≤ largestUnsigned then addDigits larger rest else (value, digit :: rest)

def powerOfTen (places : Nat) : Float :=
  Float.ofScientific 1 false places

/-- A number is divided by a power of ten in portions that floating point numbers can hold. -/
def divideByTens (value : Float) (places : Nat) : Float :=
  if places ≤ 308 then value / powerOfTen places
  else if value == 0 then value
  else divideByTens (value / powerOfTen 308) (places - 308)
termination_by places
decreasing_by omega

/-- The floating point number with the given digits and exponent, unless it is too large. -/
def floatOf? (digits : Nat) (exponent : Int) : Option Float :=
  let value := digits.toUInt64.toFloat
  match exponent with
  | .ofNat places =>
    if places ≤ 308 then
      let scaled := value * powerOfTen places
      if scaled.isInf then none else some scaled
    else if digits = 0 then some value
    else none
  | .negSucc places => some (divideByTens value (places + 1))

def signedFloat (negative : Bool) (value : Float) : Found :=
  .floating (if negative then -value else value)

/-- Exponents are counted within 32 bits. -/
def largestExponent : Nat := UInt32.size / 2 - 1

/-- How many digits of an exponent are read before it is too large, if it ever is. -/
def exponentOverflow? (value count : Nat) : List Char → Option Nat
  | [] => none
  | digit :: rest =>
    let larger := 10 * value + (digit.toNat - '0'.toNat)
    if largestExponent < larger then some (count + 1) else exponentOverflow? larger (count + 1) rest

namespace Reader

/-- Reads the exponent after its letter. -/
def exponent : Reader (Bool × List Char) := do
  let mark ← peek
  if mark == some '+' || mark == some '-' then advance
  match ← peek with
  | none => failHere .endInValue
  | some character =>
    if character.isDigit then return (mark == some '-', ← takeWhile Char.isDigit)
    else failAhead .invalidNumber

def integralDigits : Reader (List Char) := do
  match ← peek with
  | none => failHere .endInValue
  | some character =>
    if character == '0' then
      advance
      if isDigit? (← peek) then failAhead .invalidNumber else return ['0']
    else if character.isDigit then takeWhile Char.isDigit
    else failAhead .invalidNumber

def fractionDigits : Reader (List Char) := do
  let digits ← takeWhile Char.isDigit
  if digits.isEmpty then
    match ← peek with
    | none => failAhead .endInValue
    | some _ => failAhead .invalidNumber
  else return digits

/-- The number with an exponent whose digits end before the cursor. -/
def scaled (negative : Bool) (digits : Nat) (places : Int) (descending : Bool) (exponent : List Char) :
    Reader Found := do
  match exponentOverflow? 0 0 exponent with
  | some count =>
    if digits ≠ 0 && !descending then
      let cursor ← get
      throw ⟨.numberOutOfRange, some (cursor.offset - (exponent.length - count))⟩
    else return signedFloat negative 0
  | none =>
    let amount : Int := (addDigits 0 exponent).1
    match floatOf? digits (if descending then places - amount else places + amount) with
    | some value => return signedFloat negative value
    | none => failHere .numberOutOfRange

/-- Reads a number after its sign. -/
def number (negative : Bool) : Reader Found := do
  let integral ← integralDigits
  let (whole, dropped) := addDigits 0 integral
  let pointed := (← peek) == some '.'
  let fraction ← if pointed then advance *> fractionDigits else pure []
  let (digits, unused) := addDigits whole fraction
  let places : Int := (dropped.length : Int) - (fraction.length - unused.length : Nat)
  let mark ← peek
  if mark == some 'e' || mark == some 'E' then
    advance
    let (descending, power) ← exponent
    scaled negative digits places descending power
  else if pointed || !dropped.isEmpty then
    match floatOf? digits places with
    | some value => return signedFloat negative value
    | none => failHere .numberOutOfRange
  else if !negative then return .integer whole
  else if whole = 0 || UInt64.size / 2 < whole then return signedFloat true whole.toUInt64.toFloat
  else return .integer (-whole)

/-- Passes over a number after its sign. Its size does not matter. -/
def skipNumber : Reader Unit := do
  match ← peek with
  | some '0' =>
    advance
    if isDigit? (← peek) then failAhead .invalidNumber
  | some character =>
    if character.isDigit then
      let _ ← takeWhile Char.isDigit
    else failAhead .invalidNumber
  | none => failHere .invalidNumber
  if (← peek) == some '.' then
    advance
    if (← takeWhile Char.isDigit).isEmpty then failAhead .invalidNumber
  let mark ← peek
  if mark == some 'e' || mark == some 'E' then
    advance
    let sign ← peek
    if sign == some '+' || sign == some '-' then advance
    if (← takeWhile Char.isDigit).isEmpty then failAhead .invalidNumber

end Reader

end ArticleRules.Json
