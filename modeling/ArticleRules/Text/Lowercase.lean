import ArticleRules.Text.CaseTable
import ArticleRules.Text.Ranges

/-
This file writes text in small letters by the full Unicode rules. A capital sigma at the end of a
word has a small letter of its own, and a dotted capital I becomes two characters.
-/

namespace ArticleRules.Text

def CaseRun.covers (run : CaseRun) (code : Nat) : Bool :=
  run.first ≤ code && code ≤ run.last && (code - run.first) % run.stride == 0

/-- A character without a small letter stands for itself. -/
def smallLetters (character : Char) : List Char :=
  let code := character.toNat
  if code < 0x80 then [character.toLower]
  else if code == 0x130 then ['i', Char.ofNat 0x307]
  else
    match caseRuns.find? (·.covers code) with
    | some run => [Char.ofNat (code + run.distance).toNat]
    | none => [character]

def isCaseIgnorable (character : Char) : Bool :=
  inRanges caseIgnorableBasic caseIgnorableSupplementary character

def isCased (character : Char) : Bool :=
  inRanges casedBasic casedSupplementary character

/-- A letter with case comes next, when the characters that may stand inside a word are passed over. -/
def reachesLetter (characters : List Char) : Bool :=
  (characters.dropWhile isCaseIgnorable).head?.any isCased

/-- The characters before the current one are kept nearest first. -/
def lowercaseAfter (before : List Char) : List Char → List Char
  | [] => []
  | character :: rest =>
    let small :=
      if character == 'Σ' then
        [if reachesLetter before && !reachesLetter rest then 'ς' else 'σ']
      else smallLetters character
    small ++ lowercaseAfter (character :: before) rest

/-- All letters of the text become small letters. -/
def lowercase (text : String) : String :=
  String.ofList (lowercaseAfter [] text.toList)

/-- Only the letters A to Z become small letters. -/
def lowercaseAscii (text : String) : String :=
  String.ofList (text.toList.map Char.toLower)

end ArticleRules.Text
