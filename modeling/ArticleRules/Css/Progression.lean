import ArticleRules.Css.Reader
import ArticleRules.Css.Selector

/-
This file reads progressions: the positions among siblings that a selector counts, such as 2n+1.
-/

namespace ArticleRules.Css

open Reader

/-- Reads the offset of a progression after its sign, where only a number without sign may stand. -/
def unsignedOffset (step sign : Int) : Reader Progression := do
  match (← take).token with
  | .number ⟨false, _, some whole⟩ => return ⟨step, sign * whole⟩
  | token => throw (.unexpectedToken token)

/-- Reads the offset of a progression, which is zero if none follows. -/
def offset (step : Int) : Reader Progression := do
  let start ← get
  match start.dropWhile Component.isBlank with
  | .single (.delim '+') :: rest =>
    set rest
    unsignedOffset step 1
  | .single (.delim '-') :: rest =>
    set rest
    unsignedOffset step (-1)
  | .single (.number ⟨true, _, some whole⟩) :: rest =>
    set rest
    return ⟨step, whole⟩
  | _ => return ⟨step, 0⟩

/-- The offset in a name such as n-3, which is the letter n, a hyphen and digits. -/
def offsetInName (name : String) : Option Int :=
  match name.toList with
  | letter :: '-' :: digits =>
    if letter.toLower == 'n' && !digits.isEmpty && digits.all Char.isDigit then
      some (clampWhole (-(naturalOf 10 digits : Int)))
    else none
  | _ => none

/-- Reads the rest of a progression after its step, where the given name holds the letter n. -/
def progressionAfter (step : Int) (name : String) (fault : Fault) : Reader Progression :=
  let small := Text.lowercaseAscii name
  if small == "n" then offset step
  else if small == "n-" then unsignedOffset step (-1)
  else
    match offsetInName name with
    | some whole => return ⟨step, whole⟩
    | none => throw fault

/-- Reads a progression such as even, 3 or 2n+1. -/
def progression : Reader Progression := do
  match (← take).token with
  | .number ⟨_, _, some whole⟩ => return ⟨0, whole⟩
  | .dimension ⟨_, _, some step⟩ unit => progressionAfter step unit (.unexpectedToken (.ident unit))
  | .ident name =>
    let fault := Fault.unexpectedToken (.ident name)
    let small := Text.lowercaseAscii name
    if small == "even" then return ⟨2, 0⟩
    else if small == "odd" then return ⟨2, 1⟩
    else
      match name.toList with
      | '-' :: rest => progressionAfter (-1) (String.ofList rest) fault
      | _ => progressionAfter 1 name fault
  | .delim '+' =>
    match (← takeRaw).token with
    | .ident name => progressionAfter 1 name (.unexpectedToken (.ident name))
    | token => throw (.unexpectedToken token)
  | token => throw (.unexpectedToken token)

end ArticleRules.Css
