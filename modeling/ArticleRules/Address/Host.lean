import ArticleRules.Address.Bidirectional
import ArticleRules.Address.Label
import ArticleRules.Address.Number

/-
This file checks the host of an address. The hosts of well-known schemes are domain names or numbers,
and other hosts may hold any character that does not end them.
-/

namespace ArticleRules.Address

/-- The characters that no host may hold. -/
def isForbiddenInHost (character : Char) : Bool :=
  "\x00\t\n\r #/:<>?@[\\]^|".toList.contains character

/-- Domain names exclude control characters and percent signs as well. -/
def isForbiddenInDomain (character : Char) : Bool :=
  isForbiddenInHost character || character.toNat < 0x20 || character == '%' || character.toNat == 0x7F

/-- A percent sign with two hexadecimal digits stands for a byte. -/
def percentDecoded : List Char → List UInt8
  | '%' :: first :: second :: rest =>
    match hexValue? first, hexValue? second with
    | some high, some low => (16 * high + low).toUInt8 :: percentDecoded rest
    | _, _ => '%'.toUInt8 :: percentDecoded (first :: second :: rest)
  | character :: rest => character.toString.toUTF8.toList ++ percentDecoded rest
  | [] => []

/-- The plain form of a domain name, if all of its characters may be used. -/
def plainName? (name : List Char) : Option (List Char) := do
  let plain := Text.normalForm (← name.mapM plainForm?).flatten
  if plain.any isForbiddenInDomain then none else return plain

/-- The labels of a domain name in their plain form. -/
def plainLabels? (host : List Char) : Option (List (List Char)) := do
  let decoded ← String.fromUTF8? (percentDecoded host).toByteArray
  (Text.splitAt '.' (← plainName? decoded.toList)).mapM labelLetters?

def checkDomain (host : List Char) : Except Fault Unit :=
  match plainLabels? host with
  | none => .error .invalidDomain
  | some labels =>
    let keepsOrder := !labels.any isBidirectional || labels.all keepsDirection
    if !labels.all isValidLabel || !keepsOrder then .error .invalidDomain
    else if labels == [[]] then .error .emptyHost
    else if endsInNumber labels && !isIpv4 labels then .error .invalidIpv4
    else .ok ()

/-- Brackets enclose a host of numeric groups. -/
def checkGroups (host : List Char) : Except Fault Unit :=
  if host.getLast? == some ']' && isIpv6 (host.drop 1).dropLast then .ok () else .error .invalidIpv6

/-- The host of a well-known scheme. -/
def checkKnownHost (host : List Char) : Except Fault Unit :=
  if host.head? == some '[' then checkGroups host else checkDomain host

/-- The host of any other scheme. -/
def checkOtherHost (host : List Char) : Except Fault Unit :=
  if host.head? == some '[' then checkGroups host
  else if host.any isForbiddenInHost then .error .invalidHostCharacter
  else .ok ()

end ArticleRules.Address
