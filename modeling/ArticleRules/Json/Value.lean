/-
This file defines JSON values. Objects keep their members in the order in which they are written.
-/

namespace ArticleRules

inductive Json where
  | null
  | flag (value : Bool)
  | number (value : Nat)
  | text (value : String)
  | list (items : List Json)
  | object (members : List (String × Json))

namespace Json

/-- A member is left out of its object when it has no value. -/
def member? (name : String) : Option Json → List (String × Json)
  | none => []
  | some value => [(name, value)]

end Json

end ArticleRules
