import ArticleRules.Text.Blank
import ArticleRules.Text.Lowercase

/-
This file defines the document tree that conversions read: elements with their attributes, text, and
the nodes that carry no content.
-/

namespace ArticleRules

namespace Namespace

def html : String := "http://www.w3.org/1999/xhtml"
def svg : String := "http://www.w3.org/2000/svg"
def mathml : String := "http://www.w3.org/1998/Math/MathML"
def xlink : String := "http://www.w3.org/1999/xlink"
def xml : String := "http://www.w3.org/XML/1998/namespace"
def xmlns : String := "http://www.w3.org/2000/xmlns/"

end Namespace

/-- An attribute has a name, in a namespace that may be empty, and a value. -/
structure Attribute where
  qualifier : Option String
  space : String
  localName : String
  value : String
  deriving DecidableEq, Repr

/-- Names in one namespace are ordered among themselves. -/
def Attribute.namePrecedes (first second : Attribute) : Bool :=
  first.space < second.space || (first.space == second.space && first.localName ≤ second.localName)

/-- Attributes are ordered by qualifier, then namespace, then name; an absent qualifier comes first. -/
def Attribute.precedes (first second : Attribute) : Bool :=
  match first.qualifier, second.qualifier with
  | none, some _ => true
  | some _, none => false
  | none, none => first.namePrecedes second
  | some left, some right => left < right || (left == right && first.namePrecedes second)

/-- The start of an element: its name, the namespace of the name, and its attributes. -/
structure Tag where
  space : String
  localName : String
  attributes : List Attribute
  deriving DecidableEq, Repr

/-- The attributes of a tag are kept in order. -/
def Tag.of (space localName : String) (attributes : List Attribute) : Tag :=
  ⟨space, localName, attributes.mergeSort Attribute.precedes⟩

def Tag.isHtml (tag : Tag) : Bool :=
  tag.space == Namespace.html

/-- The value of the attribute with this plain name. -/
def Tag.attribute? (tag : Tag) (name : String) : Option String :=
  (tag.attributes.find? fun candidate =>
    candidate.qualifier.isNone && candidate.space == "" && candidate.localName == name).map Attribute.value

inductive Node where
  | document (children : List Node)
  | fragment (children : List Node)
  | doctype (name : String)
  | comment (text : String)
  | text (content : String)
  | instruction (target data : String)
  | element (tag : Tag) (children : List Node)

namespace Node

instance : Inhabited Node :=
  ⟨fragment []⟩

def children : Node → List Node
  | document children | fragment children | element _ children => children
  | doctype _ | comment _ | text _ | instruction _ _ => []

def tag? : Node → Option Tag
  | element tag _ => some tag
  | _ => none

def isElement (node : Node) : Bool :=
  node.tag?.isSome

/-- Blank text, comments, doctypes and processing instructions carry no content. -/
def isSkippable : Node → Bool
  | text content => Text.trim content == ""
  | comment _ | doctype _ | instruction _ _ => true
  | document _ | fragment _ | element _ _ => false

/-- An element is named by its tag in small letters, and any other node by its kind. -/
def name : Node → String
  | element tag _ => Text.lowercase tag.localName
  | text _ => "#text"
  | comment _ => "#comment"
  | doctype _ => "#doctype"
  | instruction _ _ => "#processing-instruction"
  | document _ => "#document"
  | fragment _ => "#fragment"

mutual

/-- The text of a node is all text at or below it, in document order. -/
def textContent : Node → String
  | text content => content
  | document children | fragment children | element _ children => textContents children
  | comment _ | doctype _ | instruction _ _ => ""

def textContents : List Node → String
  | [] => ""
  | node :: rest => textContent node ++ textContents rest

end

end Node

end ArticleRules
