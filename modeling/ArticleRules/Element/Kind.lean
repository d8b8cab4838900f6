/-
This file names the kinds of article elements and the fixed choices for their layout.
-/

namespace ArticleRules

/-- The kind of an element is also the kind of context in which rules apply. -/
inductive Kind where
  | article
  | header
  | interactive
  | video
  | caption
  deriving DecidableEq, Repr

namespace Kind

def name : Kind → String
  | article => "InstantArticle"
  | header => "Header"
  | interactive => "Interactive"
  | video => "Video"
  | caption => "Caption"

def all : List Kind :=
  [article, header, interactive, video, caption]

def ofName? (name : String) : Option Kind :=
  all.find? (·.name == name)

end Kind

/-- An interactive element fills the page or the text column. -/
inductive Width where
  | noMargin
  | column
  deriving DecidableEq, Repr

namespace Width

def name : Width → String
  | noMargin => "no-margin"
  | column => "column-width"

def all : List Width :=
  [noMargin, column]

def ofName? (name : String) : Option Width :=
  all.find? (·.name == name)

end Width

/-- How a video is framed. -/
inductive Presentation where
  | fit
  | fitOnly
  | fullscreen
  | nonInteractive
  deriving DecidableEq, Repr

namespace Presentation

def name : Presentation → String
  | fit => "aspect-fit"
  | fitOnly => "aspect-fit-only"
  | fullscreen => "fullscreen"
  | nonInteractive => "non-interactive"

def all : List Presentation :=
  [fit, fitOnly, fullscreen, nonInteractive]

def ofName? (name : String) : Option Presentation :=
  all.find? (·.name == name)

end Presentation

end ArticleRules
