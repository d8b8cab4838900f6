import ArticleRules.Css.Lexer

/-
This file groups tokens into components: a bracket or function holds everything up to its closing
bracket. A closing bracket that closes nothing stays a component of its own, and brackets that are
still open at the end of the text are closed there.
-/

namespace ArticleRules.Css

inductive Bracket where
  | parenthesis
  | square
  | curly
  deriving DecidableEq

def Token.opens? : Token → Option Bracket
  | .function _ | .openParenthesis => some .parenthesis
  | .openSquare => some .square
  | .openCurly => some .curly
  | _ => none

def Token.closes? : Token → Option Bracket
  | .closeParenthesis => some .parenthesis
  | .closeSquare => some .square
  | .closeCurly => some .curly
  | _ => none

inductive Component where
  | single (token : Token)
  | block (opening : Token) (content : List Component)

/-- The first token of a component stands for it in messages. -/
def Component.token : Component → Token
  | single token => token
  | block opening _ => opening

/-- A block that is still open remembers what came before it, latest first. -/
structure OpenBlock where
  before : List Component
  opening : Token
  bracket : Bracket

/-- Closing all open blocks gives the components of the outermost level, latest first. -/
def closeAll (current : List Component) : List OpenBlock → List Component
  | [] => current
  | block :: outer => closeAll (.block block.opening current.reverse :: block.before) outer

/-- The components of the innermost open block are kept latest first. -/
def gather (current : List Component) (opened : List OpenBlock) : List Token → List Component
  | [] => (closeAll current opened).reverse
  | token :: rest =>
    match token.opens? with
    | some bracket => gather [] (⟨current, token, bracket⟩ :: opened) rest
    | none =>
      match opened with
      | block :: outer =>
        if token.closes? = some block.bracket then
          gather (.block block.opening current.reverse :: block.before) outer rest
        else gather (.single token :: current) opened rest
      | [] => gather (.single token :: current) opened rest

def components (text : String) : List Component :=
  gather [] [] (tokens text.toList)

end ArticleRules.Css
