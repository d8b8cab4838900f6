import ArticleRules.Tree.Node

/-
This file points at nodes inside a tree. A place knows the node it points at and every step that led
there, so that its surroundings can be visited.
-/

namespace ArticleRules

/-- A step goes from a node to the child at the given index. -/
structure Step where
  parent : Node
  index : Nat

/-- The steps to a place are kept innermost first. -/
structure Place where
  node : Node
  above : List Step

namespace Place

def root (tree : Node) : Place :=
  ⟨tree, []⟩

/-- The path lists the child indices from the root. -/
def path (place : Place) : List Nat :=
  (place.above.map Step.index).reverse

/-- Places in one tree are told apart by their paths. -/
def same (first second : Place) : Bool :=
  first.above.map Step.index == second.above.map Step.index

def parent? (place : Place) : Option Place :=
  match place.above with
  | [] => none
  | step :: above => some ⟨step.parent, above⟩

/-- The place of a child node below this one. -/
def child (place : Place) (index : Nat) (node : Node) : Place :=
  ⟨node, ⟨place.node, index⟩ :: place.above⟩

def children (place : Place) : List Place :=
  place.node.children.mapIdx place.child

/-- A path is followed from here, one child index at a time. -/
def descend? (place : Place) : List Nat → Option Place
  | [] => some place
  | index :: path =>
    match place.node.children[index]? with
    | some node => (place.child index node).descend? path
    | none => none

/-- The siblings of a place and the place itself, in document order. -/
def level (place : Place) : List Place :=
  match place.parent? with
  | some parent => parent.children
  | none => [place]

def index (place : Place) : Nat :=
  match place.above with
  | [] => 0
  | step :: _ => step.index

/-- The siblings before a place are listed nearest first. -/
def earlierSiblings (place : Place) : List Place :=
  (place.level.take place.index).reverse

/-- The siblings after a place are listed nearest first. -/
def laterSiblings (place : Place) : List Place :=
  place.level.drop (place.index + 1)

end Place

mutual

/-- All places at or below a node, in document order. -/
def placesAt (node : Node) (above : List Step) : List Place :=
  ⟨node, above⟩ ::
    match node with
    | .document children => placesAmong node children 0 above
    | .fragment children => placesAmong node children 0 above
    | .element _ children => placesAmong node children 0 above
    | .doctype _ | .comment _ | .text _ | .instruction _ _ => []

def placesAmong (parent : Node) (nodes : List Node) (index : Nat) (above : List Step) : List Place :=
  match nodes with
  | [] => []
  | node :: rest => placesAt node (⟨parent, index⟩ :: above) ++ placesAmong parent rest (index + 1) above

end

namespace Place

/-- The places strictly below this one, in document order. -/
def descendants (place : Place) : List Place :=
  placesAmong place.node place.node.children 0 place.above

def isElement (place : Place) : Bool :=
  place.node.isElement

end Place

end ArticleRules
