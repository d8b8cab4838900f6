import ArticleRules.Address.Host

/-
This file decides whether a text is an absolute address: it has a scheme, and where the scheme asks
for a host, the host and the port are valid. The rest of an address may be anything.
-/

namespace ArticleRules.Address

/-- The rules for hosts differ between files, well-known network schemes and all others. -/
inductive SchemeKind where
  | file
  | network
  | other
  deriving DecidableEq

def SchemeKind.of (scheme : String) : SchemeKind :=
  if scheme == "file" then .file
  else if ["http", "https", "ws", "wss", "ftp"].contains scheme then .network
  else .other

def isSlash (character : Char) : Bool :=
  character == '/' || character == '\\'

/-- The characters that count: none of the blanks and controls at the ends, and no line breaks or tabs. -/
def significant (text : String) : List Char :=
  let isEdge := fun character : Char => character.toNat ≤ 0x20
  let inner := ((text.toList.dropWhile isEdge).reverse.dropWhile isEdge).reverse
  inner.filter fun character => !(character == '\t' || character == '\n' || character == '\r')

/-- The scheme starts with a letter and ends at the first colon. -/
def splitScheme? (characters : List Char) : Option (String × List Char) :=
  let isSchemeCharacter := fun character : Char =>
    character.isAlphanum || character == '+' || character == '-' || character == '.'
  match characters.dropWhile isSchemeCharacter with
  | ':' :: rest =>
    if characters.head?.any Char.isAlpha then
      some (Text.lowercaseAscii (String.ofList (characters.takeWhile isSchemeCharacter)), rest)
    else none
  | _ => none

/-- The authority of an address ends at its path, query or fragment. -/
def endsAuthority (kind : SchemeKind) (character : Char) : Bool :=
  character == '/' || character == '?' || character == '#' || (kind != .other && character == '\\')

/-- A port is at most the largest number of sixteen bits. -/
def checkPort (digits : List Char) : Except Fault Unit :=
  let (number, rest) := (digits.takeWhile Char.isDigit, digits.dropWhile Char.isDigit)
  if 65535 < number.foldl (fun value digit => 10 * value + (digit.toNat - '0'.toNat)) 0 then
    .error .invalidPort
  else if rest.isEmpty || rest.head? == some '\\' then .ok ()
  else .error .invalidPort

/-- The host ends at the first colon outside brackets. -/
def splitPort (inBrackets : Bool) : List Char → List Char × Option (List Char)
  | [] => ([], none)
  | character :: rest =>
    if character == ':' && !inBrackets then ([], some rest)
    else
      let inside := if character == '[' then true else if character == ']' then false else inBrackets
      let (host, port) := splitPort inside rest
      (character :: host, port)

/-- The part after the last at sign, and the part before it if there is one. -/
def splitUser (authority : List Char) : Option (List Char) × List Char :=
  let host := (authority.reverse.takeWhile (· != '@')).reverse
  if host.length = authority.length then (none, host)
  else (some (authority.take (authority.length - host.length - 1)), host)

/-- A host may be empty only where no user, no port and no known scheme asks for it. -/
def checkAuthority (kind : SchemeKind) (characters : List Char) : Except Fault Unit := do
  let authority := characters.takeWhile (!endsAuthority kind ·)
  let (user, hostAndPort) := splitUser authority
  let (host, port) := splitPort false hostAndPort
  let named := user.any fun name => !(name.isEmpty || name == [':'])
  let follows := authority.length < characters.length
  if user == some [] && hostAndPort.isEmpty && follows then throw .emptyHost
  if host.isEmpty then
    if kind == .network || port.isSome || named then throw .emptyHost
  else if kind == .network then checkKnownHost host
  else checkOtherHost host
  match port with
  | some digits => checkPort digits
  | none => return ()

/-- A drive letter in the place of a host is part of the path. -/
def isDrive : List Char → Bool
  | [letter, mark] => letter.isAlpha && (mark == ':' || mark == '|')
  | _ => false

def checkFile (characters : List Char) : Except Fault Unit :=
  match characters with
  | first :: second :: rest =>
    if isSlash first && isSlash second then
      let host := rest.takeWhile (!endsAuthority .file ·)
      if host.isEmpty || isDrive host then .ok () else checkKnownHost host
    else .ok ()
  | _ => .ok ()

/-- Checks that the text is an absolute address. -/
def check (text : String) : Except Fault Unit :=
  match splitScheme? (significant text) with
  | none => .error .relative
  | some (scheme, rest) =>
    match SchemeKind.of scheme with
    | .file => checkFile rest
    | .network => checkAuthority .network (rest.dropWhile isSlash)
    | .other =>
      match rest with
      | '/' :: '/' :: authority => checkAuthority .other authority
      | _ => .ok ()

end ArticleRules.Address
