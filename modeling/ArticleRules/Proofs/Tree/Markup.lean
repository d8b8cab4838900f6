import ArticleRules.Proofs.Text.Entity
import ArticleRules.Proofs.Tree.Children
import ArticleRules.Tree.Markup

/-
This file compares the markup of an element with that of its children, written one by one between its tags.
The two are made by different rules for text: on its own, text keeps its no-break spaces, and below an
element for readers without scripts it is not escaped at all.
-/

namespace ArticleRules

namespace Tag

/-- The text of elements with this name counts as raw when it is written on its own. -/
def hasRawText (tag : Tag) : Bool :=
  rawTextElements.contains (Text.lowercaseAscii tag.localName)

/-- The characters that are escaped in the text of an element when the element is written. -/
def escapedInside (tag : Tag) : List Char :=
  if tag.isVerbatim then [] else ['&', Text.noBreakSpace, '<', '>']

/-- The characters that are escaped in the text of an element when the text is written on its own. -/
def escapedAlone (tag : Tag) : List Char :=
  if tag.hasRawText then [] else ['&', '<', '>']

/-- Text of the element is written the same inside the element and on its own. Under the name noscript it
is escaped inside the element only, and elsewhere a no-break space is. -/
structure WritesAlike (tag : Tag) (content : String) : Prop where
  unscripted : tag.localName = "noscript" →
    ∀ character ∈ content.toList, character ∉ ['&', Text.noBreakSpace, '<', '>']
  escaped : tag.localName ≠ "noscript" → tag.isVerbatim = false →
    Text.noBreakSpace ∉ content.toList

theorem length_entity_escapedInside (tag : Tag) :
    ∀ character ∈ tag.escapedInside, 1 < (Text.entity character).length := by
  intro character member
  rw [escapedInside] at member
  split at member
  · cases member
  · simp only [List.mem_cons, List.not_mem_nil, or_false] at member
    obtain rfl | rfl | rfl | rfl := member <;> decide

section small

variable {tag : Tag}

/-- For HTML names in small letters the two lists of names differ in one name. -/
theorem hasRawText_eq (html : tag.isHtml = true)
    (small : Text.lowercaseAscii tag.localName = tag.localName) :
    tag.hasRawText = (tag.localName == "noscript" || tag.isVerbatim) := by
  rw [hasRawText, small, rawTextElements, List.contains_cons, isVerbatim, html, Bool.true_and]

theorem escapedAlone_subset (html : tag.isHtml = true)
    (small : Text.lowercaseAscii tag.localName = tag.localName) :
    tag.escapedAlone ⊆ tag.escapedInside := by
  rw [escapedAlone, escapedInside, hasRawText_eq html small]
  cases tag.isVerbatim with
  | true => simp
  | false => cases tag.localName == "noscript" <;> simp

theorem isVerbatim_of_noscript (named : tag.localName = "noscript") : tag.isVerbatim = false := by
  rw [isVerbatim, named]
  exact Bool.and_false _

/-- Text is written alike if it has none of the characters that are escaped inside the element only. -/
theorem writesAlike_iff (html : tag.isHtml = true)
    (small : Text.lowercaseAscii tag.localName = tag.localName) (content : String) :
    tag.WritesAlike content ↔
      ∀ character ∈ content.toList, character ∈ tag.escapedInside → character ∈ tag.escapedAlone := by
  rw [escapedAlone, escapedInside, hasRawText_eq html small]
  by_cases named : tag.localName = "noscript"
  · rw [isVerbatim_of_noscript named, beq_iff_eq.2 named]
    refine ⟨fun alike character member among => absurd among (alike.unscripted named character member),
      fun none => ⟨fun _ character member among => ?_, fun other => absurd named other⟩⟩
    exact List.not_mem_nil (none character member among)
  · rw [beq_eq_false_iff_ne.2 named, Bool.false_or]
    cases verbatim : tag.isVerbatim with
    | true =>
        refine ⟨fun _ _ _ among => among, fun _ => ⟨fun same => absurd same named, fun _ escapes => ?_⟩⟩
        rw [verbatim] at escapes
        cases escapes
    | false =>
        refine ⟨fun alike character member among => ?_,
          fun none => ⟨fun same => absurd same named, fun _ _ member => ?_⟩⟩
        · obtain rfl | other : character = Text.noBreakSpace ∨ character ∈ ['&', '<', '>'] := by
            simpa [or_left_comm] using among
          · exact absurd member (alike.escaped named verbatim)
          · exact other
        · exact absurd (none _ member (by decide)) (by decide)

end small

end Tag

namespace Node

/-- Elements, text and comments are what is inside of an element. -/
def isContent : Node → Bool
  | element _ _ | text _ | comment _ => true
  | document _ | fragment _ | doctype _ | instruction _ _ => false

theorem toList_innerMarkups (surroundings : Surroundings) (nodes : List Node) :
    (innerMarkups surroundings nodes).toList =
      nodes.flatMap fun node => (node.innerMarkup surroundings).toList := by
  induction nodes with
  | nil => rfl
  | cons node rest ih => rw [innerMarkups, String.toList_append, ih, List.flatMap_cons]

section content

variable {tag : Tag}

theorem outerMarkup_text (tag : Tag) (content : String) :
    (text content).outerMarkup tag.hasRawText = Text.escape tag.escapedAlone content := by
  rw [outerMarkup, Tag.escapedAlone]
  split
  · exact (Text.escape_nil content).symm
  · rfl

theorem innerMarkup_text (tag : Tag) (content : String) :
    (text content).innerMarkup ⟨tag.isVerbatim, false⟩ = Text.escape tag.escapedInside content := by
  rw [innerMarkup, Tag.escapedInside]
  cases tag.isVerbatim with
  | true => exact (Text.escape_nil content).symm
  | false => rfl

/-- Elements are written alike in all surroundings that keep their tags. -/
theorem outerMarkup_element (tag : Tag) (children : List Node) (rawText verbatim : Bool) :
    (element tag children).outerMarkup rawText = (element tag children).innerMarkup ⟨verbatim, false⟩ := by
  rw [outerMarkup, innerMarkup, innerMarkup]
  rfl

end content

end Node

section markup

variable {place : Place} {tag : Tag} {children : List Node}

/-- The markup of a child on its own depends on the name of its parent. -/
theorem Place.markup_of_mem_children {child : Place} (parent : place.node.tag? = some tag)
    (member : child ∈ place.children) : child.markup = child.node.outerMarkup tag.hasRawText := by
  obtain ⟨index, inside, rfl⟩ := List.mem_mapIdx.1 member
  have above : (place.child index place.node.children[index]).parent? = some place := rfl
  rw [Place.markup, Place.hasRawText, above]
  simp only [parent, Tag.hasRawText]

theorem toList_markupOf_children (parent : place.node.tag? = some tag) :
    (markupOf place.children).toList =
      place.node.children.flatMap fun child => (child.outerMarkup tag.hasRawText).toList := by
  rw [markupOf, String.toList_join, List.flatMap_map, ← place.map_node_children, List.flatMap_map]
  refine List.flatMap_congr fun child member => ?_
  rw [Place.markup_of_mem_children parent member]

/-- A child on its own is written no longer than inside its parent, and the same if its text is written
alike. -/
theorem Node.outerMarkup_cases (html : tag.isHtml = true)
    (small : Text.lowercaseAscii tag.localName = tag.localName) {child : Node}
    (content : child.isContent = true) :
    (child.outerMarkup tag.hasRawText).toList.length ≤
        (child.innerMarkup ⟨tag.isVerbatim, false⟩).toList.length ∧
      (child.outerMarkup tag.hasRawText = child.innerMarkup ⟨tag.isVerbatim, false⟩ ↔
        ∀ text, child = .text text → tag.WritesAlike text) := by
  cases child with
  | document | fragment | doctype | instruction => cases content
  | element childTag below =>
      rw [outerMarkup_element childTag below tag.hasRawText tag.isVerbatim]
      exact ⟨Nat.le_refl _, fun _ => nofun, fun _ => rfl⟩
  | comment remark => exact ⟨Nat.le_refl _, fun _ => nofun, fun _ => rfl⟩
  | text written =>
      have subset := Tag.escapedAlone_subset html small
      rw [outerMarkup_text, innerMarkup_text]
      refine ⟨Text.length_escape_le subset tag.length_entity_escapedInside written, ?_⟩
      rw [Text.escape_eq_escape_iff subset tag.length_entity_escapedInside,
        ← Tag.writesAlike_iff html small]
      simp

/-- Take an element of HTML that has an end tag and a name in small letters. If it holds elements, text and
comments only, its markup is that of its children between its tags, unless some of its text is written
differently inside the element and on its own. -/
theorem Place.markup_eq_iff_writesAlike (isElement : place.node = .element tag children)
    (html : tag.isHtml = true) (small : Text.lowercaseAscii tag.localName = tag.localName)
    (closes : tag.isVoid = false) (content : ∀ child ∈ children, child.isContent = true) :
    place.markup = tag.startMarkup ++ markupOf place.children ++ tag.endMarkup ↔
      ∀ text, .text text ∈ children → tag.WritesAlike text := by
  have whole : place.markup =
      tag.startMarkup ++ Node.innerMarkups ⟨tag.isVerbatim, false⟩ children ++ tag.endMarkup := by
    rw [Place.markup, isElement, Node.outerMarkup, Node.innerMarkup]
    simp only [Surroundings.inside, closes, Bool.or_false, Bool.false_eq_true, if_false]
  have parent : place.node.tag? = some tag := by rw [isElement]; rfl
  have below : place.node.children = children := by rw [isElement]; rfl
  have each := fun child member => Node.outerMarkup_cases html small (content child member)
  rw [whole, String.append_left_inj, String.append_right_inj, eq_comm, ← String.toList_inj,
    toList_markupOf_children parent, below, Node.toList_innerMarkups,
    flatMap_eq_flatMap_iff fun child member => (each child member).1]
  simp only [String.toList_inj]
  refine ⟨fun same text member => ?_, fun alike child member => ?_⟩
  · exact (each _ member).2.1 (same _ member) text rfl
  · exact (each child member).2.2 fun text isText => alike text (isText ▸ member)

end markup

/-- The tag of HTML with this name and without attributes. -/
def Tag.plain (name : String) : Tag :=
  ⟨Namespace.html, name, []⟩

/-- An element of HTML with this name that holds this text alone. -/
def Node.wrap (name content : String) : Node :=
  .element (.plain name) [.text content]

theorem Place.markup_eq_iff_writesAlike_paragraph :
    (Tag.plain "p").isHtml = true ∧ Text.lowercaseAscii "p" = "p" ∧ (Tag.plain "p").isVoid = false ∧
      (Tag.plain "p").WritesAlike "1 < 2" ∧
      (root (.wrap "p" "1 < 2")).markup =
        (Tag.plain "p").startMarkup ++ markupOf (root (.wrap "p" "1 < 2")).children ++
          (Tag.plain "p").endMarkup := by
  have content : ∀ child ∈ [Node.text "1 < 2"], child.isContent = true := by
    intro child member
    rw [List.mem_singleton.1 member]
    rfl
  have alike : (Tag.plain "p").WritesAlike "1 < 2" := ⟨by decide, by decide⟩
  refine ⟨rfl, rfl, rfl, alike, (markup_eq_iff_writesAlike rfl rfl rfl rfl content).2 ?_⟩
  intro text member
  cases List.mem_singleton.1 member
  exact alike

/-- Inside an element for readers without scripts text is escaped, and on its own it is not. -/
theorem Place.markup_ne_noscript :
    (root (.wrap "noscript" "1 < 2")).markup = "<noscript>1 &lt; 2</noscript>" ∧
      markupOf (root (.wrap "noscript" "1 < 2")).children = "1 < 2" := by
  decide

/-- A no-break space is escaped inside an element only. -/
theorem Place.markup_ne_paragraph :
    (root (.wrap "p" "a\u00a0b")).markup = "<p>a&nbsp;b</p>" ∧
      markupOf (root (.wrap "p" "a\u00a0b")).children = "a\u00a0b" := by
  decide

end ArticleRules
