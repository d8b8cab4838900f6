import ArticleRules.Css.Token

/-
This file splits selector text into tokens. Every reader takes the characters that are left and
returns what it read together with the characters after it. Comments are left out.
-/

namespace ArticleRules.Css

def replacement : Char := Char.ofNat 0xFFFD

def isNewline (character : Char) : Bool :=
  character == '\n' || character == '\r' || character == Char.ofNat 0x0C

def isSpace (character : Char) : Bool :=
  character == ' ' || character == '\t' || isNewline character

/-- A name starts with a letter, an underscore, NUL or any character beyond ASCII. -/
def isNameStart (character : Char) : Bool :=
  character.isAlpha || character == '_' || character == '\x00' || 0x80 ≤ character.toNat

def isNameCharacter (character : Char) : Bool :=
  isNameStart character || character.isDigit || character == '-'

def isHexDigit (character : Char) : Bool :=
  character.isDigit || ('a' ≤ character && character ≤ 'f') || ('A' ≤ character && character ≤ 'F')

def digitValue (character : Char) : Nat :=
  if character.isDigit then character.toNat - '0'.toNat
  else character.toLower.toNat - 'a'.toNat + 10

def naturalOf (base : Nat) (digits : List Char) : Nat :=
  digits.foldl (fun value digit => value * base + digitValue digit) 0

/-- A carriage return and the line feed after it are one newline. -/
def dropNewline : List Char → List Char
  | '\r' :: '\n' :: rest => rest
  | _ :: rest => rest
  | [] => []

/-- A backslash does not escape the end of a line. -/
def startsWithNewline (characters : List Char) : Bool :=
  characters.head?.any isNewline

/-- A code point by number; what is no character is replaced. -/
def characterOfCode (code : Nat) : Char :=
  if code = 0 || 0x10FFFF < code || (0xD800 ≤ code && code ≤ 0xDFFF) then replacement
  else Char.ofNat code

/-- Reads what follows a backslash: up to six hexadecimal digits and one blank, or any character. -/
def readEscape : List Char → Char × List Char
  | [] => (replacement, [])
  | character :: rest =>
    if isHexDigit character then
      let digits := ((character :: rest).take 6).takeWhile isHexDigit
      let after := (character :: rest).drop digits.length
      let tail :=
        match after with
        | next :: afterNext =>
          if isNewline next then dropNewline after
          else if isSpace next then afterNext
          else after
        | [] => []
      (characterOfCode (naturalOf 16 digits), tail)
    else if character == '\x00' then (replacement, rest)
    else (character, rest)

/-- Reads the characters of a name, with escapes replaced. -/
def readName (characters : List Char) : List Char × List Char :=
  match characters with
  | [] => ([], [])
  | character :: rest =>
    if isNameCharacter character then
      let (name, after) := readName rest
      ((if character == '\x00' then replacement else character) :: name, after)
    else if character == '\\' && !startsWithNewline rest then
      let (escaped, tail) := readEscape rest
      if _shorter : tail.length ≤ rest.length then
        let (name, after) := readName tail
        (escaped :: name, after)
      else ([escaped], tail)
    else ([], characters)
termination_by characters.length

/-- After a hyphen the backslash of an escape is not checked further. -/
def startsIdent : List Char → Bool
  | [] => false
  | '-' :: next :: _ => isNameStart next || next == '-' || next == '\\'
  | '\\' :: rest => !startsWithNewline rest
  | character :: _ => isNameStart character

/-- Text up to its closing mark. An unescaped newline makes it a bad string. -/
def readString (mark : Char) (characters : List Char) : Except (List Char) (List Char) × List Char :=
  match characters with
  | [] => (.ok [], [])
  | character :: rest =>
    if character == mark then (.ok [], rest)
    else if isNewline character then (.error [], characters)
    else if character == '\\' then
      if rest.isEmpty then (.ok [], [])
      else if startsWithNewline rest then
        if _shorter : (dropNewline rest).length ≤ rest.length then readString mark (dropNewline rest)
        else (.ok [], rest)
      else
        let (escaped, tail) := readEscape rest
        if _shorter : tail.length ≤ rest.length then
          let (text, after) := readString mark tail
          (withCharacter escaped text, after)
        else (.ok [escaped], tail)
    else
      let (text, after) := readString mark rest
      (withCharacter (if character == '\x00' then replacement else character) text, after)
termination_by characters.length
where
  withCharacter (character : Char) : Except (List Char) (List Char) → Except (List Char) (List Char)
    | .ok text => .ok (character :: text)
    | .error text => .error (character :: text)

/-- The end of a bad address: everything up to an unescaped closing parenthesis. -/
def readBadUrl : List Char → List Char × List Char
  | [] => ([], [])
  | ')' :: rest => ([], rest)
  | '\\' :: next :: rest =>
    if next == ')' || next == '\\' then
      let (text, after) := readBadUrl rest
      ('\\' :: next :: text, after)
    else
      let (text, after) := readBadUrl (next :: rest)
      ('\\' :: text, after)
  | character :: rest =>
    let (text, after) := readBadUrl rest
    (character :: text, after)

def isControl (character : Char) : Bool :=
  let code := character.toNat
  (0x01 ≤ code && code ≤ 0x08) || code == 0x0B || (0x0E ≤ code && code ≤ 0x1F) || code == 0x7F

/-- The characters of an address without marks and what follows it. If a character spoils the address,
the characters after that one are left over. -/
def readUrlText (characters : List Char) : Except (List Char) (List Char × List Char) :=
  match characters with
  | [] => .ok ([], [])
  | character :: rest =>
    if character == ')' then .ok ([], rest)
    else if isSpace character then
      match rest.dropWhile isSpace with
      | [] => .ok ([], [])
      | next :: after => if next == ')' then .ok ([], after) else .error after
    else if character == '"' || character == '\'' || character == '(' || isControl character then
      .error rest
    else if character == '\\' then
      if startsWithNewline rest then .error rest
      else
        let (escaped, tail) := readEscape rest
        if _shorter : tail.length ≤ rest.length then
          (readUrlText tail).map fun (text, after) => (escaped :: text, after)
        else .ok ([escaped], tail)
    else
      (readUrlText rest).map fun (text, after) =>
        ((if character == '\x00' then replacement else character) :: text, after)
termination_by characters.length

/-- Reads the address after its opening, unless it is written with marks like a string. -/
def readUrl (characters : List Char) : Option (Token × List Char) :=
  let start := characters.dropWhile isSpace
  match start with
  | [] => some (.url "", [])
  | character :: rest =>
    if character == '"' || character == '\'' then none
    else if character == ')' then some (.url "", rest)
    else
      match readUrlText start with
      | .ok (text, after) => some (.url (String.ofList text), after)
      | .error leftOver =>
        let (text, after) := readBadUrl leftOver
        let spoiled := start.take (start.length - leftOver.length)
        some (.badUrl (String.ofList (spoiled ++ text)), after)

def readIdentLike (characters : List Char) : Token × List Char :=
  let (name, rest) := readName characters
  match rest with
  | '(' :: after =>
    if name.map Char.toLower == "url".toList then
      (readUrl after).getD (.function (String.ofList name), after)
    else (.function (String.ofList name), after)
  | _ => (.ident (String.ofList name), rest)

/-- Reads a sign, which counts as plus when there is none. -/
def readSign : List Char → Bool × Float × List Char
  | '-' :: rest => (true, -1, rest)
  | '+' :: rest => (true, 1, rest)
  | characters => (false, 1, characters)

def readDigits (characters : List Char) : List Char × List Char :=
  (characters.takeWhile Char.isDigit, characters.dropWhile Char.isDigit)

def startsDigit (characters : List Char) : Bool :=
  characters.head?.any Char.isDigit

/-- Digits before the point add up from the left. -/
def integralValue (digits : List Char) : Float :=
  digits.foldl (fun value digit => value * 10 + (digitValue digit).toFloat) 0

/-- Digits after the point are weighted with successive tenths. -/
def fractionValue (digits : List Char) : Float :=
  (digits.foldl (fun (value, factor) digit => (value + (digitValue digit).toFloat * factor, factor * 0.1))
    ((0 : Float), (0.1 : Float))).1

/-- Reads the digits after a point, if there are any. -/
def readFraction : List Char → Option (List Char × List Char)
  | '.' :: rest => if startsDigit rest then some (readDigits rest) else none
  | _ => none

/-- Reads an exponent as the factor that it stands for. -/
def readExponent : List Char → Option (Float × List Char)
  | mark :: rest =>
    if mark == 'e' || mark == 'E' then
      let (_, sign, unsigned) := readSign rest
      if startsDigit unsigned then
        let (digits, after) := readDigits unsigned
        some (Float.pow 10 (sign * integralValue digits), after)
      else none
    else none
  | [] => none

/-- Whole numbers are kept within 32 bits. -/
def clampWhole (value : Int) : Int :=
  max (-2147483648) (min value 2147483647)

def readNumeric (characters : List Char) : Token × List Char :=
  let (signed, sign, unsigned) := readSign characters
  let (integral, afterIntegral) := readDigits unsigned
  let fraction := readFraction afterIntegral
  let (fractional, afterFraction) := fraction.getD ([], afterIntegral)
  let exponent := readExponent afterFraction
  let (factor, rest) := exponent.getD (1, afterFraction)
  let size := sign * (integralValue integral + fractionValue fractional)
  let value := if exponent.isSome then size * factor else size
  let magnitude : Int := naturalOf 10 integral
  let whole :=
    if fraction.isSome || exponent.isSome then none
    else some (clampWhole (if sign < 0 then -magnitude else magnitude))
  match rest with
  | '%' :: after => (.percentage ⟨signed, (value / 100).toFloat32, whole⟩, after)
  | _ =>
    if startsIdent rest then
      let (unit, after) := readName rest
      (.dimension ⟨signed, value.toFloat32, whole⟩ (String.ofList unit), after)
    else (.number ⟨signed, value.toFloat32, whole⟩, rest)

/-- After an optional sign, a number starts with a digit or with a point and a digit. -/
def startsNumber : List Char → Bool
  | '.' :: rest => startsDigit rest
  | characters => startsDigit characters

/-- The characters after a comment, whose opening is already read. -/
def skipComment : List Char → List Char
  | '*' :: '/' :: rest => rest
  | _ :: rest => skipComment rest
  | [] => []

/-- Reads one token. There is none for a comment. -/
def readToken (character : Char) (rest : List Char) : Option Token × List Char :=
  let characters := character :: rest
  let single := fun token => (some token, rest)
  let whole := fun (token, after) => (some token, after)
  let paired := fun (second : Char) (token : Token) =>
    if rest.head? == some second then (some token, rest.drop 1) else (some (.delim character), rest)
  if isSpace character then
    (some (.whitespace (String.ofList (characters.takeWhile isSpace))), characters.dropWhile isSpace)
  else if character.isDigit then whole (readNumeric characters)
  else if isNameStart character then whole (readIdentLike characters)
  else match character with
  | '"' | '\'' =>
    match readString character rest with
    | (.ok text, after) => (some (.quoted (String.ofList text)), after)
    | (.error text, after) => (some (.badString (String.ofList text)), after)
  | '#' =>
    let (name, after) := readName rest
    if startsIdent rest then (some (.idHash (String.ofList name)), after)
    else if startsDigit rest || rest.head? == some '-' then (some (.hash (String.ofList name)), after)
    else single (.delim '#')
  | '$' => paired '=' .endMatch
  | '*' => paired '=' .substringMatch
  | '^' => paired '=' .startMatch
  | '|' => paired '=' .dashMatch
  | '~' => paired '=' .includeMatch
  | '(' => single .openParenthesis
  | ')' => single .closeParenthesis
  | '[' => single .openSquare
  | ']' => single .closeSquare
  | '\x7b' => single .openCurly
  | '\x7d' => single .closeCurly
  | ',' => single .comma
  | ':' => single .colon
  | ';' => single .semicolon
  | '+' => if startsNumber rest then whole (readNumeric characters) else single (.delim '+')
  | '.' => if startsDigit rest then whole (readNumeric characters) else single (.delim '.')
  | '-' =>
    if startsNumber rest then whole (readNumeric characters)
    else match rest with
    | '-' :: '>' :: after => (some .commentClose, after)
    | _ => if startsIdent characters then whole (readIdentLike characters) else single (.delim '-')
  | '<' =>
    match rest with
    | '!' :: '-' :: '-' :: after => (some .commentOpen, after)
    | _ => single (.delim '<')
  | '/' =>
    match rest with
    | '*' :: after => (none, skipComment after)
    | _ => single (.delim '/')
  | '@' =>
    if startsIdent rest then
      let (name, after) := readName rest
      (some (.atKeyword (String.ofList name)), after)
    else single (.delim '@')
  | '\\' =>
    if startsWithNewline rest then single (.delim '\\') else whole (readIdentLike characters)
  | other => single (.delim other)

/-- The tokens of selector text. Every token takes at least one character. -/
def tokens (characters : List Char) : List Token :=
  match characters with
  | [] => []
  | character :: rest =>
    let (token, after) := readToken character rest
    if _shorter : after.length ≤ rest.length then token.toList ++ tokens after
    else token.toList
termination_by characters.length

end ArticleRules.Css
