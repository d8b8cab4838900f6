import ArticleRules.Json.Number

/-
This file reads JSON text into known shapes: texts, lists, objects with free keys, and records. Values
that no shape asks for are passed over.
-/

namespace ArticleRules.Json.Reader

/-- Reports a value of the wrong type after reading it. Lists and objects are not read. -/
def wrongType (expected : String) : Reader α := do
  let fail := fun found => failUnplaced (.wrongType found expected)
  match ← peek with
  | some 'n' =>
    advance
    word "ull".toList
    fail .null
  | some 't' =>
    advance
    word "rue".toList
    fail (.flag true)
  | some 'f' =>
    advance
    word "alse".toList
    fail (.flag false)
  | some '"' =>
    advance
    fail (.text (← text))
  | some '[' => fail .list
  | some '\x7b' => fail .object
  | some '-' =>
    advance
    fail (← number true)
  | some character =>
    if character.isDigit then fail (← number false) else failAhead .valueExpected
  | none => failAhead .valueExpected

/-- Reads a text. -/
def string : Reader String :=
  placed do
    match ← peekAfterSpace with
    | none => failAhead .endInValue
    | some character =>
      if character == '"' then
        advance
        text
      else wrongType "a string"

/-- Reads a value or null. -/
def optional (reader : Reader α) : Reader (Option α) := do
  if (← peekAfterSpace) == some 'n' then
    advance
    word "ull".toList
    return none
  else some <$> reader

/-- Reads what is inside a pair of brackets. The closing one is looked for also after a fault without
a place, which is then reported where the cursor stands. -/
def enclosed (inner : Reader α) (close : Reader Unit) : Reader α := do
  let value ← tryCatch inner fun failure =>
    match failure.offset with
    | some _ => throw failure
    | none => do
      tryCatch close fun _ => return ()
      failHere failure.problem
  close
  return value

def closeList : Reader Unit := do
  match ← peekAfterSpace with
  | some ']' => advance
  | some ',' =>
    advance
    if (← peekAfterSpace) == some ']' then failAhead .trailingComma else failAhead .trailingCharacters
  | some _ => failAhead .trailingCharacters
  | none => failAhead .endInList

def closeObject : Reader Unit := do
  match ← peekAfterSpace with
  | some '\x7d' => advance
  | some ',' => failAhead .trailingComma
  | some _ => failAhead .trailingCharacters
  | none => failAhead .endInObject

/-- Goes to the next item of a list, if there is one. -/
def nextItem (first : Bool) : Reader Bool := do
  match ← peekAfterSpace with
  | none => failAhead .endInList
  | some character =>
    if character == ']' then return false
    else if first then return true
    else if character == ',' then
      advance
      match ← peekAfterSpace with
      | some ']' => failAhead .trailingComma
      | some _ => return true
      | none => failAhead .endInValue
    else failAhead .listCommaExpected

/-- Goes to the next key of an object and reads it, if there is one. -/
def nextKey (first : Bool) : Reader (Option String) := do
  match ← peekAfterSpace with
  | none => failAhead .endInObject
  | some character =>
    if character == '\x7d' then return none
    else if first then key (some character)
    else if character == ',' then
      advance
      match ← peekAfterSpace with
      | some '\x7d' => failAhead .trailingComma
      | next => key next
    else failAhead .objectCommaExpected
where
  key (next : Option Char) : Reader (Option String) := do
    match next with
    | none => failAhead .endInValue
    | some character =>
      if character == '"' then
        advance
        some <$> text
      else failAhead .keyExpected

def colon : Reader Unit := do
  match ← peekAfterSpace with
  | some ':' => advance
  | some _ => failAhead .colonExpected
  | none => failAhead .endInObject

/-- Reads items until the list ends. Every item takes a character, which bounds their number. -/
def items (fuel : Nat) (first : Bool) (item : Reader α) : Reader (List α) := do
  match fuel with
  | 0 => failHere .endInList
  | fuel + 1 =>
    if ← nextItem first then
      let value ← item
      return value :: (← items fuel false item)
    else return []

/-- Reads members until the object ends, and adds each to what is already read. -/
def members (fuel : Nat) (first : Bool) (state : σ) (member : String → σ → Reader σ) : Reader σ := do
  match fuel with
  | 0 => failHere .endInObject
  | fuel + 1 =>
    match ← nextKey first with
    | some name => members fuel false (← member name state) member
    | none => return state

/-- The number of characters that are left. -/
def remaining : Reader Nat :=
  return (← get).rest.length

def listOf (item : Reader α) : Reader (List α) :=
  placed do
    match ← peekAfterSpace with
    | none => failAhead .endInValue
    | some '[' =>
      advance
      enclosed (do items ((← remaining) + 1) true item) closeList
    | some _ => wrongType "a sequence"

/-- Reads an object with free keys. -/
def objectOf (start : σ) (add : String → α → σ → σ) (value : Reader α) : Reader σ :=
  placed do
    match ← peekAfterSpace with
    | none => failAhead .endInValue
    | some '\x7b' =>
      advance
      enclosed (do
        members ((← remaining) + 1) true start fun name state => do
          colon
          return add name (← value) state) closeObject
    | some _ => wrongType "a map"

mutual

/-- Passes over any value. The fuel bounds how many values it holds. -/
def skip (fuel : Nat) : Reader Unit := do
  match fuel with
  | 0 => failHere .endInValue
  | fuel + 1 =>
    match ← peekAfterSpace with
    | none => failAhead .endInValue
    | some character =>
      match character with
      | 'n' => advance *> word "ull".toList
      | 't' => advance *> word "rue".toList
      | 'f' => advance *> word "alse".toList
      | '-' => advance *> skipNumber
      | '"' => advance *> skipText
      | '[' =>
        advance
        match ← peekAfterSpace with
        | none => failAhead .endInList
        | some ']' => advance
        | some _ => skipItems fuel
      | '\x7b' =>
        advance
        match ← peekAfterSpace with
        | none => failAhead .endInObject
        | some '\x7d' => advance
        | some _ => skipMembers fuel
      | other => if other.isDigit then skipNumber else failAhead .valueExpected

def skipItems (fuel : Nat) : Reader Unit := do
  match fuel with
  | 0 => failHere .endInValue
  | fuel + 1 =>
    skip fuel
    match ← peekAfterSpace with
    | none => failAhead .endInList
    | some ']' => advance
    | some ',' =>
      advance
      skipItems fuel
    | some _ => failAhead .listCommaExpected

def skipMembers (fuel : Nat) : Reader Unit := do
  match fuel with
  | 0 => failHere .endInValue
  | fuel + 1 =>
    match ← peekAfterSpace with
    | none => failAhead .endInObject
    | some '"' =>
      advance
      skipText
      colon
      skip fuel
      match ← peekAfterSpace with
      | none => failAhead .endInObject
      | some '\x7d' => advance
      | some ',' =>
        advance
        skipMembers fuel
      | some _ => failAhead .objectCommaExpected
    | some _ => failAhead .keyExpected

end

def skipValue : Reader Unit := do
  skip (2 * (← remaining) + 2)

/-- A field of a record that is read into a state. -/
structure Field (σ : Type) where
  name : String
  isSet : σ → Bool
  /-- A record that is written as a list may end before a field that has a default. -/
  hasDefault : Bool
  read : σ → Reader σ

/-- Reads the fields of a record that is written as a list, in order. -/
def fieldsInOrder (words : String) (index : Nat) (state : σ) : List (Field σ) → Reader σ
  | [] => return state
  | field :: rest => do
    if ← nextItem (index == 0) then fieldsInOrder words (index + 1) (← field.read state) rest
    else if field.hasDefault then fieldsInOrder words index state rest
    else failUnplaced (.wrongLength index words)

/-- Reads one member of a record. No field may be given twice, and unknown members are passed over. -/
def fieldByName (fields : List (Field σ)) (name : String) (state : σ) : Reader σ := do
  match fields.find? (·.name == name) with
  | none =>
    colon
    skipValue
    return state
  | some field =>
    if field.isSet state then failUnplaced (.duplicateField name)
    else
      colon
      field.read state

/-- Reads a record as an object or as the list of its fields. -/
def record (name : String) (fields : List (Field σ)) (start : σ) (finish : σ → Except Problem α) :
    Reader α :=
  let words := name ++ " with " ++ toString fields.length ++
    (if fields.length = 1 then " element" else " elements")
  let finished := fun state =>
    match finish state with
    | .ok value => return value
    | .error problem => failUnplaced problem
  placed do
    match ← peekAfterSpace with
    | none => failAhead .endInValue
    | some '[' =>
      advance
      enclosed (do finished (← fieldsInOrder words 0 start fields)) closeList
    | some '\x7b' =>
      advance
      enclosed (do
        finished (← members ((← remaining) + 1) true start (fieldByName fields))) closeObject
    | some _ => wrongType name

end ArticleRules.Json.Reader
