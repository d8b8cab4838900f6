import ArticleRules.Tree.Place

/-
This file gives the places of the children of a node one after the other, those of all nodes below it, and
the induction over a tree in which a node comes after its children.
-/

namespace ArticleRules

theorem Node.sizeOf_child_lt {node child : Node} (member : child ∈ node.children) :
    sizeOf child < sizeOf node := by
  have smaller := List.sizeOf_lt_of_mem member
  cases node <;> simp only [children, List.not_mem_nil] at member smaller <;>
    simp only [document.sizeOf_spec, fragment.sizeOf_spec, element.sizeOf_spec] <;> omega

/-- A property that passes from the children of each node to the node holds of every node. -/
theorem Node.induction_on_children {property : Node → Prop}
    (step : ∀ node : Node, (∀ child ∈ node.children, property child) → property node)
    (node : Node) : property node :=
  step node fun child member =>
    have : sizeOf child < sizeOf node := sizeOf_child_lt member
    induction_on_children step child
termination_by sizeOf node

/-- The places of sibling nodes, of which the first has the given index. -/
def placesFrom (parent : Node) (above : List Step) (index : Nat) : List Node → List Place
  | [] => []
  | node :: rest => ⟨node, ⟨parent, index⟩ :: above⟩ :: placesFrom parent above (index + 1) rest

namespace Place

theorem mapIdx_eq_placesFrom (parent : Node) (above : List Step) (index : Nat) (nodes : List Node) :
    (nodes.mapIdx fun offset node => (⟨node, ⟨parent, index + offset⟩ :: above⟩ : Place)) =
      placesFrom parent above index nodes := by
  induction nodes generalizing index with
  | nil => rfl
  | cons node rest ih =>
      rw [List.mapIdx_cons, placesFrom, ← ih (index + 1)]
      simp only [Nat.add_zero, Nat.add_assoc, Nat.add_comm 1]

theorem children_eq_placesFrom (place : Place) :
    place.children = placesFrom place.node place.above 0 place.node.children := by
  rw [← mapIdx_eq_placesFrom]
  change (place.node.children.mapIdx fun index node => place.child index node) = _
  simp only [child, Nat.zero_add]

theorem placesAmong_eq_flatMap (parent : Node) (nodes : List Node) (index : Nat) (above : List Step) :
    placesAmong parent nodes index above =
      (placesFrom parent above index nodes).flatMap fun place => placesAt place.node place.above := by
  induction nodes generalizing index with
  | nil => rw [placesAmong, placesFrom, List.flatMap_nil]
  | cons node rest ih => rw [placesAmong, placesFrom, List.flatMap_cons, ih]

theorem placesAt_eq_cons (place : Place) :
    placesAt place.node place.above = place :: place.descendants := by
  obtain ⟨node, above⟩ := place
  cases node <;> simp only [placesAt, descendants, Node.children, placesAmong]

/-- Below a place there are its children, each followed by what is below it. -/
theorem descendants_eq_flatMap (place : Place) :
    place.descendants = place.children.flatMap fun child => child :: child.descendants := by
  rw [descendants, placesAmong_eq_flatMap, ← children_eq_placesFrom]
  simp only [placesAt_eq_cons]

theorem mem_descendants_of_mem_children {place child : Place} (member : child ∈ place.children) :
    child ∈ place.descendants := by
  rw [descendants_eq_flatMap]
  exact List.mem_flatMap.2 ⟨child, member, List.mem_cons_self⟩

theorem mem_descendants_of_child {place child below : Place} (member : child ∈ place.children)
    (lower : below ∈ child.descendants) : below ∈ place.descendants := by
  rw [descendants_eq_flatMap]
  exact List.mem_flatMap.2 ⟨child, member, List.mem_cons_of_mem _ lower⟩

theorem map_node_children (place : Place) : place.children.map node = place.node.children := by
  refine List.ext_getElem (by simp [children]) fun index inside other => ?_
  simp only [children, List.getElem_map, List.getElem_mapIdx]
  rfl

theorem node_mem_of_mem_children {place child : Place} (member : child ∈ place.children) :
    child.node ∈ place.node.children := by
  obtain ⟨index, inside, rfl⟩ := List.mem_mapIdx.1 member
  exact List.getElem_mem inside

/-- A property that passes from the places of the children to a place holds of every place. -/
theorem induction_on_children {property : Place → Prop}
    (step : ∀ place : Place, (∀ child ∈ place.children, property child) → property place)
    (place : Place) : property place := by
  obtain ⟨node, above⟩ := place
  induction node using Node.induction_on_children generalizing above with
  | step node ih =>
      apply step
      intro child member
      exact ih child.node (node_mem_of_mem_children member) child.above

end Place

end ArticleRules
