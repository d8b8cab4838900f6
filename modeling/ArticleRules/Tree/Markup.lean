import ArticleRules.Text.Entity
import ArticleRules.Tree.Place

/-
This file writes nodes as markup: the whole node for embedding, and a short label for messages.
-/

namespace ArticleRules

/-- The elements whose text is written as it stands when the whole element is written. -/
def verbatimElements : List String :=
  ["style", "script", "xmp", "iframe", "noembed", "noframes", "plaintext"]

/-- The elements whose text is written as it stands when the text is written on its own. -/
def rawTextElements : List String :=
  "noscript" :: verbatimElements

/-- The elements that have no end tag. -/
def voidElements : List String :=
  ["area", "base", "basefont", "bgsound", "br", "col", "embed", "frame", "hr", "img", "input", "keygen",
   "link", "meta", "param", "source", "track", "wbr"]

def Tag.isVerbatim (tag : Tag) : Bool :=
  tag.isHtml && verbatimElements.contains tag.localName

def Tag.isVoid (tag : Tag) : Bool :=
  tag.isHtml && voidElements.contains tag.localName

/-- The name of an attribute is written with a fixed mark for its namespace. -/
def Attribute.label (self : Attribute) : String :=
  if self.space == "" then self.localName
  else if self.space == Namespace.xml then "xml:" ++ self.localName
  else if self.space == Namespace.xmlns then
    if self.localName == "xmlns" then self.localName else "xmlns:" ++ self.localName
  else if self.space == Namespace.xlink then "xlink:" ++ self.localName
  else "unknown_namespace:" ++ self.localName

def Attribute.markup (self : Attribute) : String :=
  " " ++ self.label ++ "=\"" ++ Text.escape ['&', Text.noBreakSpace, '"'] self.value ++ "\""

def Tag.startMarkup (tag : Tag) : String :=
  "<" ++ tag.localName ++ String.join (tag.attributes.map Attribute.markup) ++ ">"

def Tag.endMarkup (tag : Tag) : String :=
  "</" ++ tag.localName ++ ">"

/-- What surrounds a node decides how its text is written and whether its tags are. -/
structure Surroundings where
  verbatim : Bool
  tagless : Bool

/-- Inside an element its own kind decides about text, and tags vanish below an element without end. -/
def Surroundings.inside (surroundings : Surroundings) (tag : Tag) : Surroundings :=
  ⟨tag.isVerbatim, surroundings.tagless || tag.isVoid⟩

namespace Node

mutual

/-- The markup of a node inside an element that is written as a whole. -/
def innerMarkup (surroundings : Surroundings) : Node → String
  | text content =>
    if surroundings.verbatim then content else Text.escape ['&', Text.noBreakSpace, '<', '>'] content
  | comment content => "<!--" ++ content ++ "-->"
  | doctype name => "<!DOCTYPE " ++ name ++ ">"
  | instruction _ _ => ""
  | document children | fragment children => innerMarkups surroundings children
  | element tag children =>
    let content := innerMarkups (surroundings.inside tag) children
    if surroundings.tagless then content
    else if tag.isVoid then tag.startMarkup ++ content
    else tag.startMarkup ++ content ++ tag.endMarkup

def innerMarkups (surroundings : Surroundings) : List Node → String
  | [] => ""
  | node :: rest => innerMarkup surroundings node ++ innerMarkups surroundings rest

end

mutual

/-- The markup of a node on its own. Text is written as it stands where the parent asks for it. -/
def outerMarkup (rawText : Bool) : Node → String
  | element tag children => innerMarkup ⟨false, false⟩ (element tag children)
  | text content => if rawText then content else Text.escape ['&', '<', '>'] content
  | comment content => "<!--" ++ content ++ "-->"
  | document children | fragment children => outerMarkups children
  | doctype _ | instruction _ _ => ""

/-- Nodes at the top of a document or fragment have no parent that asks for raw text. -/
def outerMarkups : List Node → String
  | [] => ""
  | node :: rest => outerMarkup false node ++ outerMarkups rest

end

/-- The label of an element is its opening tag without namespaces, and of any other node its name. -/
def describe : Node → String
  | element tag _ =>
    let attributes := tag.attributes.map fun entry =>
      " " ++ entry.localName ++ "=\"" ++ Text.escape ['&', '<', '>', '"'] entry.value ++ "\""
    "<" ++ tag.localName ++ String.join attributes ++ ">"
  | node => node.name

end Node

namespace Place

/-- Text counts as raw by the name of its parent in small letters, whatever the namespace. -/
def hasRawText (place : Place) : Bool :=
  match place.parent? with
  | some parent =>
    match parent.node.tag? with
    | some tag => rawTextElements.contains (Text.lowercaseAscii tag.localName)
    | none => false
  | none => false

def markup (place : Place) : String :=
  place.node.outerMarkup place.hasRawText

def textContent (place : Place) : String :=
  place.node.textContent

end Place

/-- The markup of a list of nodes is written one after the other. -/
def markupOf (places : List Place) : String :=
  String.join (places.map Place.markup)

def textOf (places : List Place) : String :=
  String.join (places.map Place.textContent)

end ArticleRules
