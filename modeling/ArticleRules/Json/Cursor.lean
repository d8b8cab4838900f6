import ArticleRules.Json.Fault

/-
This file reads JSON text piece by piece. The cursor counts the bytes that are read, since faults are
reported by byte. A fault whose place is not yet known gets the place where the cursor stands when the
surrounding value ends.
-/

namespace ArticleRules.Json

structure Cursor where
  rest : List Char
  offset : Nat

/-- A fault is placed at a count of bytes as soon as the count is known. -/
structure Failure where
  problem : Problem
  offset : Option Nat

abbrev Reader := ExceptT Failure (StateM Cursor)

namespace Reader

/-- The fault lies at the last byte that is read. -/
def failHere (problem : Problem) : Reader α := do
  throw ⟨problem, some (← get).offset⟩

/-- The fault lies at the next byte, or at the end of the text. -/
def failAhead (problem : Problem) : Reader α := do
  let cursor ← get
  throw ⟨problem, some (if cursor.rest.isEmpty then cursor.offset else cursor.offset + 1)⟩

def failUnplaced (problem : Problem) : Reader α :=
  throw ⟨problem, none⟩

/-- Places a fault that has no place yet. -/
def placed (reader : Reader α) : Reader α :=
  tryCatch reader fun failure =>
    match failure.offset with
    | some _ => throw failure
    | none => failHere failure.problem

def peek : Reader (Option Char) :=
  return (← get).rest.head?

def advance : Reader Unit :=
  modify fun cursor =>
    match cursor.rest with
    | [] => cursor
    | character :: rest => ⟨rest, cursor.offset + character.utf8Size⟩

/-- Characters beyond ASCII take more than one byte. -/
def byteCount (characters : List Char) : Nat :=
  characters.foldr (fun character count => character.utf8Size + count) 0

/-- Takes the characters at the front that pass the test. -/
def takeWhile (accepts : Char → Bool) : Reader (List Char) := do
  let cursor ← get
  let taken := cursor.rest.takeWhile accepts
  set (⟨cursor.rest.drop taken.length, cursor.offset + byteCount taken⟩ : Cursor)
  return taken

def isSpace (character : Char) : Bool :=
  character == ' ' || character == '\n' || character == '\t' || character == '\r'

/-- The next character after white space. -/
def peekAfterSpace : Reader (Option Char) := do
  let _ ← takeWhile isSpace
  peek

/-- Reads the rest of a fixed word. -/
def word : List Char → Reader Unit
  | [] => return ()
  | expected :: rest => do
    match ← peek with
    | none => failHere .endInValue
    | some character =>
      if character == expected then
        advance
        word rest
      else failAhead .wordExpected

def hexValue? (character : Char) : Option Nat :=
  if character.isDigit then some (character.toNat - '0'.toNat)
  else if 'a' ≤ character.toLower && character.toLower ≤ 'f' then
    some (character.toLower.toNat - 'a'.toNat + 10)
  else none

/-- Reads the four hexadecimal digits of an escape. -/
def hexEscape : Reader Nat := do
  let cursor ← get
  let digits := cursor.rest.take 4
  if byteCount digits < 4 then
    set (⟨[], cursor.offset + byteCount digits⟩ : Cursor)
    failHere .endInText
  else
    match digits.mapM hexValue? with
    | some values =>
      set (⟨cursor.rest.drop 4, cursor.offset + 4⟩ : Cursor)
      return values.foldl (fun code value => 16 * code + value) 0
    | none => throw ⟨.invalidEscape, some (cursor.offset + 4)⟩

/-- Characters beyond the basic plane are escaped as a leading and a trailing half. -/
def isLeadingHalf (code : Nat) : Bool :=
  0xD800 ≤ code && code ≤ 0xDBFF

def isTrailingHalf (code : Nat) : Bool :=
  0xDC00 ≤ code && code ≤ 0xDFFF

/-- A piece of an escape that has to come next. -/
def require (expected : Char) : Reader Unit := do
  match ← peek with
  | none => failHere .endInText
  | some character => if character == expected then advance else failAhead .escapeExpected

/-- Reads a numbered escape after its mark. -/
def numberedEscape : Reader Char := do
  let code ← hexEscape
  if isTrailingHalf code then failHere .loneSurrogate
  else if isLeadingHalf code then
    require '\\'
    require 'u'
    let trailing ← hexEscape
    if isTrailingHalf trailing then
      return Char.ofNat (0x10000 + (code - 0xD800) * 0x400 + (trailing - 0xDC00))
    else failHere .loneSurrogate
  else return Char.ofNat code

def plainEscape? : Char → Option Char
  | '"' => some '"'
  | '\\' => some '\\'
  | '/' => some '/'
  | 'b' => some (Char.ofNat 8)
  | 'f' => some (Char.ofNat 12)
  | 'n' => some '\n'
  | 'r' => some '\r'
  | 't' => some '\t'
  | _ => none

/-- Reads an escape after its backslash with the given reader for numbered escapes. -/
def escape (numbered : Reader Char) : Reader Char := do
  match ← peek with
  | none => failHere .endInText
  | some character =>
    match plainEscape? character with
    | some meaning =>
      advance
      return meaning
    | none =>
      if character == 'u' then
        advance
        numbered
      else failAhead .invalidEscape

/-- Reads text up to its closing mark. The fuel is the number of characters that are left. -/
def textFrom (fuel : Nat) (read : List Char) : Reader String := do
  match fuel with
  | 0 => failHere .endInText
  | fuel + 1 =>
    match ← peek with
    | none => failHere .endInText
    | some character =>
      if character == '"' then
        advance
        return String.ofList read.reverse
      else if character == '\\' then
        advance
        let meaning ← escape numberedEscape
        textFrom fuel (meaning :: read)
      else if character.toNat < 0x20 then failAhead .controlCharacter
      else
        advance
        textFrom fuel (character :: read)

/-- Reads text after its opening mark. -/
def text : Reader String := do
  textFrom ((← get).rest.length + 1) []

/-- Passes over text up to its closing mark. Numbered escapes may stand for anything. -/
def skipTextFrom (fuel : Nat) : Reader Unit := do
  match fuel with
  | 0 => failHere .endInText
  | fuel + 1 =>
    match ← peek with
    | none => failHere .endInText
    | some character =>
      if character == '"' then advance
      else if character == '\\' then
        advance
        let _ ← escape (do let _ ← hexEscape; return ' ')
        skipTextFrom fuel
      else if character.toNat < 0x20 then failHere .controlCharacter
      else
        advance
        skipTextFrom fuel

def skipText : Reader Unit := do
  skipTextFrom ((← get).rest.length + 1)

end Reader

/-- The line and column of a byte count in a text. -/
def placeOf (offset : Nat) (text : List Char) : Nat × Nat :=
  let (line, start, _) :=
    text.foldl (fun (line, start, passed) character =>
        let passed := passed + character.utf8Size
        if character == '\n' && passed ≤ offset then (line + 1, passed, passed) else (line, start, passed))
      (1, 0, 0)
  (line, offset - start)

/-- Runs a reader on a whole text, after which only white space may follow. -/
def Reader.run? (reader : Reader α) (text : String) : Except Fault α :=
  let whole : Reader α := do
    let value ← reader
    match ← peekAfterSpace with
    | none => return value
    | some _ => failAhead .trailingCharacters
  match ((placed whole).run ⟨text.toList, 0⟩).1 with
  | .ok value => .ok value
  | .error failure =>
    let (line, column) := placeOf (failure.offset.getD 0) text.toList
    .error ⟨failure.problem, line, column⟩

end ArticleRules.Json
