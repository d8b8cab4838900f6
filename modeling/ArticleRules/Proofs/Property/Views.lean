import ArticleRules.Proofs.Tree.Order
import ArticleRules.Property.Getter

/-
This file shows that the built-in getters agree on one match. All of them look for the same first match, and
the text of a match is the text of the text nodes at or below it, in document order.
-/

namespace ArticleRules

/-- The content of a text node. -/
def Node.content? : Node → Option String
  | text content => some content
  | _ => none

theorem Node.textContents_eq_join (nodes : List Node) :
    textContents nodes = String.join (nodes.map textContent) := by
  induction nodes with
  | nil => rfl
  | cons node rest ih => rw [textContents, ih, List.map_cons, String.join_cons]

/-- Only text nodes hold text that is not in their children. -/
theorem Node.textContent_eq_append (node : Node) :
    node.textContent = node.content?.getD "" ++ textContents node.children := by
  cases node <;> simp [textContent, content?, children, textContents]

namespace Place

theorem textOf_children (place : Place) :
    textOf place.children = Node.textContents place.node.children := by
  rw [textOf, Node.textContents_eq_join, ← map_node_children, List.map_map]
  rfl

/-- A node that is no text node holds the text of its children. -/
theorem textOf_children_of_other {place : Place} (other : place.node.content? = none) :
    textOf place.children = place.textContent := by
  rw [textOf_children, textContent, Node.textContent_eq_append, other, Option.getD_none,
    String.empty_append]

/-- The text nodes at or below a place, in document order. -/
def textNodes (place : Place) : List Place :=
  (place :: place.descendants).filter (·.node.content?.isSome)

/-- The text nodes listed are those that some steps lead to. -/
theorem mem_textNodes_iff {place found : Place} : found ∈ place.textNodes ↔
    (∃ steps, place.descend? steps = some found) ∧ found.node.content?.isSome = true := by
  rw [textNodes, List.mem_filter, mem_cons_descendants_iff]

theorem textNodes_pairwise (place : Place) :
    place.textNodes.Pairwise fun first second => first.path < second.path :=
  place.cons_descendants_pairwise.filter _

/-- The contents of text nodes are joined in the order of the nodes. -/
theorem join_content (places : List Place) :
    String.join ((places.filter (·.node.content?.isSome)).filterMap (·.node.content?)) =
      String.join (places.map fun place => place.node.content?.getD "") := by
  induction places with
  | nil => rfl
  | cons place rest ih =>
      cases content : place.node.content? <;> simp [content, ih]

theorem join_flatMap (places : List Place) (part : Place → List String) :
    String.join (places.flatMap part) = String.join (places.map fun place => String.join (part place)) := by
  induction places with
  | nil => rfl
  | cons place rest ih =>
      rw [List.flatMap_cons, String.join_append, ih, List.map_cons, String.join_cons]

/-- The text of a node is the text of all text nodes at or below it, one after the other. -/
theorem textContent_eq_join (place : Place) :
    place.textContent = String.join (place.textNodes.filterMap (·.node.content?)) := by
  rw [textNodes, join_content]
  induction place using induction_on_children with
  | step place ih =>
      have below : String.join (place.descendants.map fun inner => inner.node.content?.getD "") =
          textOf place.children := by
        rw [descendants_eq_flatMap, List.map_flatMap, join_flatMap, textOf]
        exact congrArg String.join (List.map_congr_left fun child member => (ih child member).symm)
      rw [List.map_cons, String.join_cons, below, textOf_children]
      exact Node.textContent_eq_append place.node

end Place

namespace GetterTable

/-- The value that the built-in getter of this name extracts. -/
def extracted? (getter : String) (selector : Selector) (attributeName : Option String)
    (place : Place) : Option PropertyValue := do
  (← builtIn.getters.find? getter).extract selector attributeName place

section extracted?

variable {selector : Selector} {place found : Place}

theorem extracted?_text : extracted? "text" = Extraction.text := rfl

theorem extracted?_string : extracted? "string" = Extraction.text := rfl

theorem extracted?_attribute : extracted? "attribute" = Extraction.attributeValue := rfl

theorem extracted?_children : extracted? "children" = Extraction.children := rfl

theorem extracted?_element : extracted? "element" = Extraction.element := rfl

theorem extracted?_exists : extracted? "exists" = Extraction.presence := rfl

/-- Without an attribute there is a value wherever there is a match. -/
theorem isSome_extracted? {getter : String}
    (member : getter ∈ ["exists", "element", "children", "text", "string"]) :
    (extracted? getter selector none place).isSome = (selector.findFirst place).isSome := by
  simp only [List.mem_cons, List.not_mem_nil, or_false] at member
  rcases member with rfl | rfl | rfl | rfl | rfl
  · simp [extracted?_exists, Extraction.presence]
  · simp [extracted?_element, Extraction.element]
  all_goals
    simp only [extracted?_children, extracted?_text, extracted?_string, Extraction.children,
      Extraction.text]
    cases selector.findFirst place <;> rfl

/-- The built-in getters read nothing but the first match. -/
theorem extracted?_of_unmatched (unmatched : selector.findFirst place = none) (getter : String)
    (attributeName : Option String) : extracted? getter selector attributeName place = none := by
  have entries : builtIn.getters.entries.map (·.2.extract) = [Extraction.attributeValue,
      Extraction.children, Extraction.element, Extraction.presence, Extraction.text,
      Extraction.text] := rfl
  rw [extracted?]
  cases known : builtIn.getters.find? getter with
  | none => rfl
  | some found =>
      obtain ⟨entry, first, rfl⟩ := Option.map_eq_some_iff.1 known
      have member : entry.2.extract ∈ builtIn.getters.entries.map (·.2.extract) :=
        List.mem_map_of_mem (List.mem_of_find?_eq_some first)
      simp only [entries, List.mem_cons, List.not_mem_nil, or_false] at member
      show entry.2.extract selector attributeName place = none
      rcases member with same | same | same | same | same | same <;>
        simp [same, Extraction.attributeValue, Extraction.children, Extraction.element,
          Extraction.presence, Extraction.text, unmatched]

/-- The value of an attribute is found on the first match, if there is one. -/
theorem isSome_findFirst_of_attribute {name : String}
    (present : (extracted? "attribute" selector (some name) place).isSome) :
    (selector.findFirst place).isSome := by
  rw [extracted?_attribute, Extraction.attributeValue] at present
  cases matched : selector.findFirst place with
  | none => simp [matched] at present
  | some found => rfl

/-- The text of the match is seen as a node, as its text, and as the text of its children unless the match is
itself a text node. -/
theorem toText_extracted? (matched : selector.findFirst place = some found) {getter : String}
    (member : getter ∈ ["element", "text", "string"] ∨
      getter = "children" ∧ found.node.content? = none) :
    (extracted? getter selector none place).map PropertyValue.toText = some found.textContent := by
  simp only [List.mem_cons, List.not_mem_nil, or_false] at member
  rcases member with (rfl | rfl | rfl) | ⟨rfl, other⟩
  · rw [extracted?_element, Extraction.element, matched]
    rfl
  · rw [extracted?_text, Extraction.text, matched]
    rfl
  · rw [extracted?_string, Extraction.text, matched]
    rfl
  · rw [extracted?_children, Extraction.children, matched, ← Place.textOf_children_of_other other]
    rfl

/-- The built-in getters give consistent views of one match. Without an attribute, the getters for presence,
nodes, children and text have a value wherever there is a match. With an attribute the getters for text give
the value of the attribute, which is there only if there is a match, and the others do not look at it. The
match, its text, and the text of its children unless it is a text node, all read as the contents of the text
nodes at or below the match: of each of them once, and in document order. -/
theorem builtIn_views_agree (selector : Selector) (name : String) (place : Place) :
    (∀ getter ∈ ["exists", "element", "children", "text", "string"],
      (extracted? getter selector none place).isSome = (selector.findFirst place).isSome) ∧
    (∀ getter ∈ ["exists", "element", "children"],
      extracted? getter selector (some name) place = extracted? getter selector none place) ∧
    (∀ getter ∈ ["text", "string"], extracted? getter selector (some name) place =
      extracted? "attribute" selector (some name) place) ∧
    ((extracted? "attribute" selector (some name) place).isSome →
      (extracted? "exists" selector none place).isSome) ∧
    ∀ found, selector.findFirst place = some found →
      ∃ nodes : List Place,
        (∀ inner, inner ∈ nodes ↔
          (∃ steps, found.descend? steps = some inner) ∧ inner.node.content?.isSome) ∧
        nodes.Pairwise (fun first second => first.path < second.path) ∧
        (∀ getter ∈ ["element", "text", "string"],
          (extracted? getter selector none place).map PropertyValue.toText =
            some (String.join (nodes.filterMap (·.node.content?)))) ∧
        (found.node.content? = none →
          (extracted? "children" selector none place).map PropertyValue.toText =
            some (String.join (nodes.filterMap (·.node.content?)))) := by
  refine ⟨fun getter member => isSome_extracted? member, ?_, ?_, fun present => ?_,
    fun found matched => ?_⟩
  · simp [extracted?_exists, extracted?_element, extracted?_children, Extraction.presence,
      Extraction.element, Extraction.children]
  · simp [extracted?_text, extracted?_string, extracted?_attribute, Extraction.text,
      Extraction.attributeValue]
  · rw [isSome_extracted? (by simp)]
    exact isSome_findFirst_of_attribute present
  · refine ⟨found.textNodes, fun inner => Place.mem_textNodes_iff, found.textNodes_pairwise, ?_, ?_⟩
    · intro getter member
      rw [← found.textContent_eq_join]
      exact toText_extracted? matched (Or.inl member)
    · intro other
      rw [← found.textContent_eq_join]
      exact toText_extracted? matched (Or.inr ⟨rfl, other⟩)

end extracted?

end GetterTable

/-- A box that holds a paragraph between texts, with an emphasized word in it. -/
def Node.emphasis : Node :=
  .element ⟨"", "box", []⟩ [.text "before ",
    .element ⟨"", "p", [⟨none, "", "lang", "en"⟩]⟩
      [.text "one ", .element ⟨"", "b", []⟩ [.text "two"], .comment "note", .text " three"],
    .text " after"]

namespace GetterTable

theorem builtIn_views_agree_emphasis :
    let paragraph : Selector := .css "p" [.compound [.type (.of "p")]]
    (extracted? "attribute" paragraph (some "lang") (.root .emphasis)).isSome ∧
      (extracted? "exists" paragraph none (.root .emphasis)).isSome ∧
      ∃ found nodes, paragraph.findFirst (.root .emphasis) = some found ∧ found.path = [1] ∧
        found.node.content? = none ∧
        (nodes : List Place).Pairwise (fun first second => first.path < second.path) ∧
        (extracted? "children" paragraph none (.root .emphasis)).map PropertyValue.toText =
          some (String.join (nodes.filterMap (·.node.content?))) ∧
        (extracted? "children" paragraph none (.root .emphasis)).map PropertyValue.toText =
          some "one two three" := by
  intro paragraph
  have present : (extracted? "attribute" paragraph (some "lang") (.root .emphasis)).isSome := rfl
  obtain ⟨_, _, _, exists_of, views⟩ := builtIn_views_agree paragraph "lang" (.root .emphasis)
  obtain ⟨nodes, _, ordered, _, children⟩ := views _ rfl
  exact ⟨present, exists_of present, _, nodes, rfl, rfl, rfl, ordered, children rfl, rfl⟩

end GetterTable

end ArticleRules
