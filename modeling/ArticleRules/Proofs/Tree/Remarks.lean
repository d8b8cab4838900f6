import ArticleRules.Proofs.Tree.Order
import ArticleRules.Tree.Markup

/-
This file leaves out the comments, doctypes and processing instructions of a tree. Every other place of the
tree remains, its surroundings and its text stay the same, and only the indices of siblings change.
-/

namespace ArticleRules

namespace Node

/-- Comments, doctypes and processing instructions are remarks. They have no children. -/
def isRemark : Node → Bool
  | comment _ | doctype _ | instruction _ _ => true
  | document _ | fragment _ | text _ | element _ _ => false

mutual

/-- The node without the remarks below it. -/
def withoutRemarks : Node → Node
  | document children => document (withoutRemarksAmong children)
  | fragment children => fragment (withoutRemarksAmong children)
  | element tag children => element tag (withoutRemarksAmong children)
  | comment content => comment content
  | doctype name => doctype name
  | text content => text content
  | instruction target data => instruction target data

def withoutRemarksAmong : List Node → List Node
  | [] => []
  | node :: rest =>
    if node.isRemark then withoutRemarksAmong rest else withoutRemarks node :: withoutRemarksAmong rest

end

theorem withoutRemarksAmong_eq (nodes : List Node) :
    withoutRemarksAmong nodes = (nodes.filter (!·.isRemark)).map withoutRemarks := by
  induction nodes with
  | nil => rfl
  | cons node rest ih =>
      rw [withoutRemarksAmong, List.filter_cons]
      cases node.isRemark <;> simp [ih]

theorem children_withoutRemarks (node : Node) :
    node.withoutRemarks.children = (node.children.filter (!·.isRemark)).map withoutRemarks := by
  cases node <;> simp only [withoutRemarks, children, withoutRemarksAmong_eq] <;> rfl

@[simp] theorem tag?_withoutRemarks (node : Node) : node.withoutRemarks.tag? = node.tag? := by
  cases node <;> rfl

@[simp] theorem isElement_withoutRemarks (node : Node) :
    node.withoutRemarks.isElement = node.isElement := by
  rw [isElement, tag?_withoutRemarks, isElement]

@[simp] theorem isRemark_withoutRemarks (node : Node) :
    node.withoutRemarks.isRemark = node.isRemark := by
  cases node <;> rfl

@[simp] theorem isSkippable_withoutRemarks (node : Node) :
    node.withoutRemarks.isSkippable = node.isSkippable := by
  cases node <;> rfl

@[simp] theorem name_withoutRemarks (node : Node) : node.withoutRemarks.name = node.name := by
  cases node <;> rfl

@[simp] theorem describe_withoutRemarks (node : Node) :
    node.withoutRemarks.describe = node.describe := by
  cases node <;> rfl

theorem children_of_isRemark {node : Node} (remark : node.isRemark = true) : node.children = [] := by
  cases node with
  | comment | doctype | instruction => rfl
  | document | fragment | text | element => cases remark

theorem isRemark_of_visible {node : Node} (visible : node.isSkippable = false) :
    node.isRemark = false := by
  cases node with
  | document | fragment | text | element => rfl
  | comment | doctype | instruction => cases visible

theorem textContent_of_isRemark {node : Node} (remark : node.isRemark = true) :
    node.textContent = "" := by
  cases node with
  | comment | doctype | instruction => rfl
  | document | fragment | text | element => cases remark

theorem isRemark_of_isElement {node : Node} (element : node.isElement = true) :
    node.isRemark = false := by
  cases node with
  | element => rfl
  | document | fragment | text | comment | doctype | instruction => cases element

theorem isElement_of_isRemark {node : Node} (remark : node.isRemark = true) :
    node.isElement = false := by
  cases node with
  | comment | doctype | instruction => rfl
  | document | fragment | text | element => cases remark

theorem isRemark_of_mem_children {node child : Node} (member : child ∈ node.children) :
    node.isRemark = false := by
  cases node with
  | document | fragment | element => rfl
  | text | comment | doctype | instruction => cases member

mutual

/-- Remarks hold no text. -/
theorem textContent_withoutRemarks : ∀ node : Node, node.withoutRemarks.textContent = node.textContent
  | document children | fragment children | element _ children => textContents_withoutRemarks children
  | comment _ | doctype _ | text _ | instruction _ _ => rfl

theorem textContents_withoutRemarks : ∀ nodes : List Node,
    textContents (withoutRemarksAmong nodes) = textContents nodes
  | [] => rfl
  | node :: rest => by
      have later := textContents_withoutRemarks rest
      rw [withoutRemarksAmong]
      split
      · rename_i remark
        rw [later, textContents, textContent_of_isRemark remark, String.empty_append]
      · rw [textContents, textContents, later, textContent_withoutRemarks node]

end

end Node

section countP

variable {test : α → Bool} {values : List α}

theorem filter_eq_append (test : α → Bool) (values : List α) (count : Nat) :
    values.filter test = (values.take count).filter test ++ (values.drop count).filter test := by
  rw [← List.filter_append, List.take_append_drop]

theorem take_countP_filter (test : α → Bool) (values : List α) (count : Nat) :
    (values.filter test).take ((values.take count).countP test) = (values.take count).filter test := by
  rw [filter_eq_append test values count, List.countP_eq_length_filter, List.take_left]

theorem drop_countP_filter (test : α → Bool) (values : List α) (count : Nat) :
    (values.filter test).drop ((values.take count).countP test) = (values.drop count).filter test := by
  rw [filter_eq_append test values count, List.countP_eq_length_filter, List.drop_left]

theorem countP_take_succ {index : Nat} {value : α} (inside : values[index]? = some value)
    (passes : test value = true) :
    (values.take (index + 1)).countP test = (values.take index).countP test + 1 := by
  rw [List.take_add_one, inside, List.countP_append]
  simp [passes]

theorem getElem?_filter_countP {index : Nat} {value : α} (inside : values[index]? = some value)
    (passes : test value = true) :
    (values.filter test)[(values.take index).countP test]? = some value := by
  rw [← List.head?_drop, drop_countP_filter, List.drop_eq_getElem?_toList_append, inside]
  simp [passes]

/-- Members that pass a test are told apart by how many before them pass it. -/
theorem countP_take_injective {first second : Nat} {value other : α}
    (inside : values[first]? = some value) (passes : test value = true)
    (insideToo : values[second]? = some other) (passesToo : test other = true)
    (same : (values.take first).countP test = (values.take second).countP test) : first = second := by
  have grows {left right : Nat} (before : left < right) :
      (values.take (left + 1)).countP test ≤ (values.take right).countP test :=
    (List.take_prefix_take_left before).countP_le
  obtain before | equal | after := Nat.lt_trichotomy first second
  · have larger := grows before
    rw [countP_take_succ inside passes] at larger
    omega
  · exact equal
  · have larger := grows after
    rw [countP_take_succ insideToo passesToo] at larger
    omega

end countP

/-- A step to a remaining child counts the remaining children before it. -/
def Step.withoutRemarks (step : Step) : Step :=
  ⟨step.parent.withoutRemarks, (step.parent.children.take step.index).countP (!·.isRemark)⟩

namespace Place

/-- The place that a remaining node has in the tree without remarks. -/
def withoutRemarks (place : Place) : Place :=
  ⟨place.node.withoutRemarks, place.above.map Step.withoutRemarks⟩

/-- Those of the places that remain, in the tree without remarks. -/
def remaining (places : List Place) : List Place :=
  (places.filter (!·.node.isRemark)).map withoutRemarks

theorem remaining_cons_remark {place : Place} (remark : place.node.isRemark = true)
    (rest : List Place) : remaining (place :: rest) = remaining rest := by
  simp [remaining, remark]

theorem remaining_cons {place : Place} (kept : place.node.isRemark = false) (rest : List Place) :
    remaining (place :: rest) = place.withoutRemarks :: remaining rest := by
  simp [remaining, kept]

theorem remaining_append (first second : List Place) :
    remaining (first ++ second) = remaining first ++ remaining second := by
  simp [remaining]

theorem withoutRemarks_child (place : Place) (index : Nat) (node : Node) :
    (place.child index node).withoutRemarks =
      place.withoutRemarks.child ((place.node.children.take index).countP (!·.isRemark))
        node.withoutRemarks := rfl

theorem parent?_withoutRemarks (place : Place) :
    place.withoutRemarks.parent? = place.parent?.map withoutRemarks := by
  obtain ⟨node, _ | ⟨step, above⟩⟩ := place <;> rfl

@[simp] theorem isElement_withoutRemarks (place : Place) :
    place.withoutRemarks.isElement = place.isElement :=
  place.node.isElement_withoutRemarks

@[simp] theorem textContent_withoutRemarks (place : Place) :
    place.withoutRemarks.textContent = place.textContent :=
  place.node.textContent_withoutRemarks

/-- Siblings that follow others stay behind those of them that remain. -/
theorem placesFrom_withoutRemarks (parent : Node) (above : List Step) (before after : List Node)
    (siblings : parent.children = before ++ after) :
    placesFrom parent.withoutRemarks (above.map Step.withoutRemarks)
        (before.countP (!·.isRemark)) ((after.filter (!·.isRemark)).map Node.withoutRemarks) =
      remaining (placesFrom parent above before.length after) := by
  induction after generalizing before with
  | nil => rfl
  | cons node rest ih =>
      have later := ih (before ++ [node]) (by rw [siblings, List.append_assoc]; rfl)
      rw [List.length_append, List.length_singleton, List.countP_append, List.countP_singleton] at later
      rw [placesFrom, List.filter_cons]
      cases kept : node.isRemark with
      | true =>
          rw [remaining_cons_remark kept, ← later]
          simp [kept]
      | false =>
          rw [remaining_cons kept, ← later]
          have counted : (parent.children.take before.length).countP (!·.isRemark) =
              before.countP (!·.isRemark) := by rw [siblings, List.take_left]
          simp [kept, placesFrom, withoutRemarks, Step.withoutRemarks, counted]

/-- The children that remain are the children in the tree without remarks. -/
theorem children_withoutRemarks (place : Place) :
    place.withoutRemarks.children = remaining place.children := by
  have counted := placesFrom_withoutRemarks place.node place.above [] place.node.children rfl
  rw [children_eq_placesFrom, children_eq_placesFrom]
  show placesFrom _ _ 0 place.node.withoutRemarks.children = _
  rw [Node.children_withoutRemarks]
  exact counted

theorem children_of_isRemark {place : Place} (remark : place.node.isRemark = true) :
    place.children = [] := by
  rw [children, Node.children_of_isRemark remark, List.mapIdx_nil]

theorem descendants_of_isRemark {place : Place} (remark : place.node.isRemark = true) :
    place.descendants = [] := by
  rw [descendants_eq_flatMap, children_of_isRemark remark, List.flatMap_nil]

/-- What is below the places that remain is what remains below the places. -/
theorem flatMap_remaining {places : List Place}
    (below : ∀ place ∈ places, place.withoutRemarks.descendants = remaining place.descendants) :
    (remaining places).flatMap (fun place => place :: place.descendants) =
      remaining (places.flatMap fun place => place :: place.descendants) := by
  induction places with
  | nil => rfl
  | cons place rest ih =>
      have later := ih fun other member => below other (List.mem_cons_of_mem _ member)
      rw [List.flatMap_cons, remaining_append, ← later]
      cases kept : place.node.isRemark with
      | true =>
          rw [remaining_cons_remark kept, remaining_cons_remark kept, descendants_of_isRemark kept]
          rfl
      | false =>
          rw [remaining_cons kept, remaining_cons kept, List.flatMap_cons,
            below place List.mem_cons_self, List.cons_append]

theorem descendants_withoutRemarks (place : Place) :
    place.withoutRemarks.descendants = remaining place.descendants := by
  induction place using Place.induction_on_children with
  | step place below =>
      rw [descendants_eq_flatMap, descendants_eq_flatMap, children_withoutRemarks,
        flatMap_remaining below]

/-- A place that remains when remarks are left out of the tree. -/
inductive Remains (tree : Node) : Place → Prop where
  | root (kept : tree.isRemark = false) : Remains tree (root tree)
  | child {parent : Place} {index : Nat} {node : Node} (above : Remains tree parent)
      (inside : parent.node.children[index]? = some node) (kept : node.isRemark = false) :
      Remains tree (parent.child index node)

namespace Remains

variable {tree : Node} {place other : Place}

theorem isRemark_eq (remains : Remains tree place) : place.node.isRemark = false := by
  cases remains with
  | root kept => exact kept
  | child above inside kept => exact kept

theorem of_mem_children (remains : Remains tree place) (member : other ∈ place.children)
    (kept : other.node.isRemark = false) : Remains tree other := by
  obtain ⟨index, inside, rfl⟩ := List.mem_mapIdx.1 member
  exact .child remains (List.getElem?_eq_getElem inside) kept

theorem of_mem_descendants (remains : Remains tree place) (member : other ∈ place.descendants)
    (kept : other.node.isRemark = false) : Remains tree other := by
  induction place using Place.induction_on_children with
  | step place ih =>
      rw [descendants_eq_flatMap] at member
      obtain ⟨child, among, here⟩ := List.mem_flatMap.1 member
      rcases List.mem_cons.1 here with rfl | lower
      · exact remains.of_mem_children among kept
      · cases childKept : child.node.isRemark with
        | true =>
            rw [descendants_of_isRemark childKept] at lower
            cases lower
        | false => exact ih child among (remains.of_mem_children among childKept) lower

theorem parent (remains : Remains tree place) (below : place.parent? = some other) :
    Remains tree other := by
  cases remains with
  | root kept => cases below
  | child above inside kept =>
      cases below
      exact above

theorem of_mem_level (remains : Remains tree place) (member : other ∈ place.level)
    (kept : other.node.isRemark = false) : Remains tree other := by
  rw [level] at member
  split at member
  · rename_i parent below
    exact (remains.parent below).of_mem_children member kept
  · obtain rfl := List.mem_singleton.1 member
    exact remains

end Remains

/-- A place that leads to one which is no remark is no remark itself. -/
theorem isRemark_of_descend? {place other : Place} {steps : List Nat}
    (reached : place.descend? steps = some other) (kept : other.node.isRemark = false) :
    place.node.isRemark = false := by
  cases steps with
  | nil =>
      cases reached
      exact kept
  | cons index rest =>
      rw [descend?] at reached
      split at reached
      · rename_i node inside
        exact Node.isRemark_of_mem_children (List.mem_of_getElem? inside)
      · cases reached

theorem Remains.of_descend? {tree : Node} {place other : Place} {steps : List Nat}
    (remains : Remains tree place) (reached : place.descend? steps = some other)
    (kept : other.node.isRemark = false) : Remains tree other := by
  induction steps generalizing place with
  | nil =>
      cases reached
      exact remains
  | cons index rest ih =>
      rw [descend?] at reached
      split at reached
      · rename_i node inside
        exact ih (.child remains inside (isRemark_of_descend? reached kept)) reached
      · cases reached

/-- The remaining places of a tree are those that its paths lead to and that are no remarks. -/
theorem Remains.of_path {tree : Node} {place : Place} {steps : List Nat}
    (reached : (Place.root tree).descend? steps = some place) (kept : place.node.isRemark = false) :
    Remains tree place :=
  of_descend? (.root (isRemark_of_descend? reached kept)) reached kept

theorem descend?_append (place : Place) (steps path : List Nat) :
    place.descend? (steps ++ path) = place.descend? steps >>= (·.descend? path) := by
  induction steps generalizing place with
  | nil => rfl
  | cons index rest ih =>
      rw [List.cons_append, descend?, descend?]
      cases place.node.children[index]? with
      | none => rfl
      | some node => exact ih _

section Remains

variable {tree : Node} {place first second : Place}

/-- The path of a place leads to it. -/
theorem Remains.descend?_path (remains : Remains tree place) :
    (Place.root tree).descend? place.path = some place := by
  induction remains with
  | root kept => rfl
  | child above inside kept ih =>
      rw [path_child, descend?_append, ih]
      show descend? _ [_] = _
      rw [descend?, inside]
      rfl

theorem Remains.eq_of_same (remains : Remains tree first) (others : Remains tree second)
    (same : first.same second = true) : first = second := by
  have paths : first.path = second.path := congrArg List.reverse (eq_of_beq same)
  have reached := remains.descend?_path
  rw [paths, others.descend?_path] at reached
  exact (Option.some.inj reached).symm

theorem parent_eq_of_child_eq {index position : Nat} {node sibling : Node}
    (same : first.child index node = second.child position sibling) :
    first = second ∧ index = position := by
  obtain ⟨firstNode, firstAbove⟩ := first
  obtain ⟨secondNode, secondAbove⟩ := second
  simp only [child, mk.injEq, List.cons.injEq, Step.mk.injEq] at same
  obtain ⟨_, ⟨rfl, rfl⟩, rfl⟩ := same
  exact ⟨rfl, rfl⟩

/-- Two remaining places are told apart in the tree without remarks as well. -/
theorem Remains.withoutRemarks_injective (remains : Remains tree first) (others : Remains tree second)
    (same : first.withoutRemarks = second.withoutRemarks) : first = second := by
  induction remains generalizing second with
  | root kept =>
      cases others with
      | root kept => rfl
      | child aboveToo insideToo keptToo => cases congrArg Place.above same
  | @child parent index node above inside kept ih =>
      cases others with
      | root kept => cases congrArg Place.above same
      | @child other position sibling aboveToo insideToo keptToo =>
          rw [withoutRemarks_child, withoutRemarks_child] at same
          obtain ⟨parents, counted⟩ := parent_eq_of_child_eq same
          obtain rfl := ih aboveToo parents
          obtain rfl := countP_take_injective inside (by simp [kept]) insideToo (by simp [keptToo]) counted
          rw [inside] at insideToo
          cases insideToo
          rfl

/-- A remaining place has its place in the tree without remarks. -/
theorem Remains.counterpart (remains : Remains tree place) :
    Remains tree.withoutRemarks place.withoutRemarks := by
  induction remains with
  | root kept => exact .root (by simpa using kept)
  | @child parent index node above inside kept ih =>
      rw [withoutRemarks_child]
      refine .child ih ?_ (by simpa using kept)
      show parent.node.withoutRemarks.children[_]? = _
      rw [Node.children_withoutRemarks, List.getElem?_map,
        getElem?_filter_countP inside (by simp [kept])]
      rfl

theorem Remains.same_withoutRemarks (remains : Remains tree first) (others : Remains tree second) :
    first.withoutRemarks.same second.withoutRemarks = first.same second := by
  rw [Bool.eq_iff_iff]
  constructor <;> intro same
  · have equal := remains.counterpart.eq_of_same others.counterpart same
    rw [remains.withoutRemarks_injective others equal]
    exact beq_self_eq_true _
  · rw [remains.eq_of_same others same]
    exact beq_self_eq_true _

end Remains

section Siblings

variable {tree : Node} {place : Place}

theorem level_withoutRemarks (kept : place.node.isRemark = false) :
    place.withoutRemarks.level = remaining place.level := by
  rw [level, level, parent?_withoutRemarks]
  cases place.parent? with
  | none => exact (remaining_cons kept []).symm
  | some parent => exact parent.children_withoutRemarks

theorem index_withoutRemarks (place : Place) :
    place.withoutRemarks.index = (place.level.take place.index).countP (!·.node.isRemark) := by
  obtain ⟨node, _ | ⟨step, above⟩⟩ := place
  · rfl
  · have siblings := map_node_children ⟨step.parent, above⟩
    show (step.parent.children.take step.index).countP (!·.isRemark) = _
    rw [← siblings, ← List.map_take, List.countP_map]
    rfl

/-- A remaining place stands at its index among its siblings. -/
theorem Remains.level_getElem? (remains : Remains tree place) :
    place.level[place.index]? = some place := by
  cases remains with
  | root kept => rfl
  | @child parent index node above inside kept =>
      show parent.children[index]? = _
      rw [children, List.getElem?_mapIdx, inside]
      rfl

theorem earlierSiblings_withoutRemarks (kept : place.node.isRemark = false) :
    place.withoutRemarks.earlierSiblings = remaining place.earlierSiblings := by
  rw [earlierSiblings, level_withoutRemarks kept, index_withoutRemarks, remaining, ← List.map_take,
    take_countP_filter, earlierSiblings, remaining, List.filter_reverse, List.map_reverse]

theorem Remains.laterSiblings_withoutRemarks (remains : Remains tree place) :
    place.withoutRemarks.laterSiblings = remaining place.laterSiblings := by
  have passes : (!place.node.isRemark) = true := by simp [remains.isRemark_eq]
  have counted : (place.level.take (place.index + 1)).countP (!·.node.isRemark) = _ :=
    countP_take_succ remains.level_getElem? passes
  rw [laterSiblings, level_withoutRemarks remains.isRemark_eq, index_withoutRemarks, ← counted,
    remaining, ← List.map_drop, drop_countP_filter, laterSiblings, remaining]

end Siblings

end Place

end ArticleRules
