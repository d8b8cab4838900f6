import ArticleRules.Address.Fault
import ArticleRules.Text.Parts

/-
This file checks numeric hosts: four numbers joined by points, and eight groups joined by colons.
-/

namespace ArticleRules.Address

def hexValue? (character : Char) : Option Nat :=
  if character.isDigit then some (character.toNat - '0'.toNat)
  else if 'a' ≤ character.toLower && character.toLower ≤ 'f' then
    some (character.toLower.toNat - 'a'.toNat + 10)
  else none

/-- The number that a part of a host stands for: octal after a zero, hexadecimal after 0x. -/
def partNumber? (part : List Char) : Option Nat :=
  let read := fun base digits =>
    (digits : List Char).foldlM (fun value digit =>
      (hexValue? digit).bind fun amount => if amount < base then some (base * value + amount) else none) 0
  match part with
  | [] => none
  | '0' :: mark :: rest =>
    if mark == 'x' || mark == 'X' then read 16 rest else read 8 (mark :: rest)
  | digits => read 10 digits

/-- A host ends in a number if its last part is all digits or has a numeric form. -/
def endsInNumber (parts : List (List Char)) : Bool :=
  let last :=
    match parts.reverse with
    | [] :: before :: _ => before
    | last :: _ => last
    | [] => []
  (!last.isEmpty && last.all Char.isDigit) || (partNumber? last).isSome

/-- All numbers but the last stand for one byte each, and the last for the bytes that are left. -/
def isIpv4 (parts : List (List Char)) : Bool :=
  let parts := if parts.getLast? == some [] then parts.dropLast else parts
  if 4 < parts.length then false
  else
    match parts.mapM partNumber? with
    | none => false
    | some numbers =>
      match numbers.getLast? with
      | none => false
      | some last => numbers.dropLast.all (· ≤ 255) && last < Nat.pow 256 (5 - numbers.length)

/-- A byte of a numeric host is written without leading zeros. -/
def isByte (digits : List Char) : Bool :=
  !digits.isEmpty && digits.length ≤ 3 && digits.all Char.isDigit &&
    (digits.length = 1 || digits.head? != some '0') && (partNumber? digits).any (· ≤ 255)

def isByteQuad (characters : List Char) : Bool :=
  let parts := Text.splitAt '.' characters
  parts.length = 4 && parts.all isByte

def isGroup (digits : List Char) : Bool :=
  !digits.isEmpty && digits.length ≤ 4 && digits.all fun digit => (hexValue? digit).isSome

/-- How many groups a text of groups holds, where the last two may be written as four bytes. -/
def groupCount? (mayEndInBytes : Bool) (characters : List Char) : Option Nat :=
  if characters.isEmpty then some 0
  else
    let parts := Text.splitAt ':' characters
    let last := parts.getLastD []
    if parts.all isGroup then some parts.length
    else if mayEndInBytes && parts.dropLast.all isGroup && isByteQuad last then some (parts.length + 1)
    else none

/-- The texts before and after the first double colon. -/
def splitAtGap : List Char → Option (List Char × List Char)
  | ':' :: ':' :: rest => some ([], rest)
  | character :: rest => (splitAtGap rest).map fun (before, after) => (character :: before, after)
  | [] => none

/-- There are eight groups, or fewer if a double colon stands for the groups that are missing. -/
def isIpv6 (characters : List Char) : Bool :=
  match splitAtGap characters with
  | none => groupCount? true characters == some 8
  | some (before, after) =>
    match groupCount? false before, groupCount? true after with
    | some left, some right => left + right ≤ 7
    | _, _ => false

end ArticleRules.Address
