import ArticleRules.Decimal.Shortest

/-
This file writes floating point numbers with the fewest digits that read back, either positionally
or, for very large and very small values, with an exponent.
-/

namespace ArticleRules.Decimal

/-- A floating point number as its sign and its size. -/
inductive Magnitude where
  | zero
  | finite (value : Binary)
  | infinite
  | undefined

structure Signed where
  negative : Bool
  magnitude : Magnitude

def Signed.ofBits (fractionWidth exponentWidth bits : Nat) : Signed :=
  let field := bits / twoTo fractionWidth % twoTo exponentWidth
  let magnitude :=
    if field = twoTo exponentWidth - 1 then
      if bits % twoTo fractionWidth = 0 then .infinite else .undefined
    else if bits % twoTo (fractionWidth + exponentWidth) = 0 then .zero
    else .finite (Binary.ofBits fractionWidth exponentWidth bits)
  ⟨bits / twoTo (fractionWidth + exponentWidth) % 2 = 1, magnitude⟩

def Signed.ofSingle (value : Float32) : Signed :=
  .ofBits 23 8 value.toBits.toNat

def Signed.ofDouble (value : Float) : Signed :=
  .ofBits 52 11 value.toBits.toNat

/-- Positional text has no exponent and no point after a whole number. -/
def Digits.positional (decimal : Digits) : List Char :=
  let figures := Nat.toDigits 10 decimal.digits
  match decimal.exponent with
  | .ofNat zeros => figures ++ List.replicate zeros '0'
  | .negSucc below =>
    let places := below + 1
    if places < figures.length then
      figures.take (figures.length - places) ++ '.' :: figures.drop (figures.length - places)
    else "0.".toList ++ List.replicate (places - figures.length) '0' ++ figures

/-- The point stands after the first figure, and the exponent follows. The rising sign is written
before an exponent that is not negative. -/
def Digits.scientific (risingSign : List Char) (decimal : Digits) : List Char :=
  let figures := Nat.toDigits 10 decimal.digits
  let exponent := decimal.exponent + (figures.length - 1 : Nat)
  let point := if figures.length = 1 then [] else '.' :: figures.drop 1
  let sign := if 0 ≤ exponent then risingSign else []
  figures.take 1 ++ point ++ 'e' :: sign ++ (toString exponent).toList

def Digits.isWhole (decimal : Digits) : Bool :=
  0 ≤ decimal.exponent

/-- The place of the first figure, where one has place zero. -/
def Digits.leadingPlace (decimal : Digits) : Int :=
  decimal.exponent + ((Nat.toDigits 10 decimal.digits).length - 1 : Nat)

/-- How numbers are laid out. -/
structure Style where
  tie : TieRule
  /-- A number whose first figure stands at such a place is written without an exponent. -/
  isPositional : Int → Bool
  /-- Whole numbers show a decimal point. -/
  isPointed : Bool
  /-- The sign of an exponent that is not negative. -/
  risingSign : List Char

def Style.layOut (style : Style) (decimal : Digits) : List Char :=
  if style.isPositional decimal.leadingPlace then
    decimal.positional ++ if style.isPointed && decimal.isWhole then ".0".toList else []
  else decimal.scientific style.risingSign

def Signed.write (number : Signed) (style : Style) : String :=
  let size :=
    match number.magnitude with
    | .zero => if style.isPointed then "0.0".toList else ['0']
    | .finite value => style.layOut (value.shortest style.tie)
    | .infinite => "inf".toList
    | .undefined => "NaN".toList
  let minus := number.negative && !(number.magnitude matches .undefined)
  String.ofList (if minus then '-' :: size else size)

end ArticleRules.Decimal
