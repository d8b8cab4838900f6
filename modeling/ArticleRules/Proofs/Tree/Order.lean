import ArticleRules.Proofs.Tree.Children

/-
This file compares places by their paths from the root. Descending extends the path, and two places that
part at siblings stay in document order below them. The places below a place are listed in this order.
-/

namespace ArticleRules.Place

theorem path_child (place : Place) (index : Nat) (node : Node) :
    (place.child index node).path = place.path ++ [index] := by
  simp [path, child]

theorem descend?_nil (place : Place) : place.descend? [] = some place := rfl

/-- Descending from a place leads on along its path. -/
theorem path_of_descend? {place found : Place} {steps : List Nat}
    (reached : place.descend? steps = some found) : found.path = place.path ++ steps := by
  induction steps generalizing place with
  | nil =>
      cases reached
      rw [List.append_nil]
  | cons index rest ih =>
      rw [descend?] at reached
      cases inside : place.node.children[index]? with
      | none => simp [inside] at reached
      | some node =>
          simp only [inside] at reached
          rw [ih reached, path_child, List.append_assoc]
          rfl

/-- Every child is one step below its parent. -/
theorem exists_descend?_of_mem_children {place child : Place} (member : child ∈ place.children) :
    ∃ index, ∀ steps, place.descend? (index :: steps) = child.descend? steps := by
  obtain ⟨index, inside, rfl⟩ := List.mem_mapIdx.1 member
  refine ⟨index, fun steps => ?_⟩
  rw [descend?, List.getElem?_eq_getElem inside]

/-- The paths of two places part at siblings, and the first place lies on the side of the earlier one. -/
def Before (first second : Place) : Prop :=
  ∃ common earlier later beyond other, earlier < later ∧
    first.path = common ++ earlier :: beyond ∧ second.path = common ++ later :: other

section Before

variable {first second inner other : Place} {steps path : List Nat}

/-- Places in this order are in document order. -/
theorem Before.path_lt (before : first.Before second) : first.path < second.path := by
  obtain ⟨common, earlier, later, beyond, other, smaller, left, right⟩ := before
  rw [left, right]
  apply List.append_left_lt
  rw [List.cons_lt_cons_iff]
  exact Or.inl smaller

/-- Neither of two places in this order is above the other. -/
theorem Before.apart (before : first.Before second) :
    ¬ first.path <+: second.path ∧ ¬ second.path <+: first.path := by
  obtain ⟨common, earlier, later, beyond, other, smaller, left, right⟩ := before
  rw [left, right, List.prefix_append_right_inj, List.prefix_append_right_inj, List.cons_prefix_cons,
    List.cons_prefix_cons]
  constructor <;> rintro ⟨equal, _⟩ <;> omega

/-- The order of two places carries over to all places below them. -/
theorem Before.descend? (before : first.Before second) (left : first.descend? steps = some inner)
    (right : second.descend? path = some other) : inner.Before other := by
  obtain ⟨common, earlier, later, beyond, rest, smaller, leftPath, rightPath⟩ := before
  refine ⟨common, earlier, later, beyond ++ steps, rest ++ path, smaller, ?_, ?_⟩
  · rw [path_of_descend? left, leftPath, List.append_assoc]
    rfl
  · rw [path_of_descend? right, rightPath, List.append_assoc]
    rfl

end Before

theorem children_pairwise_before (place : Place) : place.children.Pairwise Before := by
  rw [List.pairwise_iff_getElem]
  intro earlier later insideEarlier insideLater smaller
  have paths (index : Nat) (inside : index < place.children.length) :
      (place.children[index]).path = place.path ++ [index] := by
    simp only [children, List.getElem_mapIdx, path_child]
  exact ⟨place.path, earlier, later, [], [], smaller, paths earlier insideEarlier,
    paths later insideLater⟩

/-- Whatever is below a place is reached from there in at least one step. -/
theorem exists_descend?_of_mem_descendants {place found : Place} (below : found ∈ place.descendants) :
    ∃ index steps, place.descend? (index :: steps) = some found := by
  induction place using induction_on_children with
  | step place ih =>
      rw [descendants_eq_flatMap] at below
      obtain ⟨child, member, lower⟩ := List.mem_flatMap.1 below
      obtain ⟨index, descends⟩ := exists_descend?_of_mem_children member
      rcases List.mem_cons.1 lower with rfl | lower
      · exact ⟨index, [], descends []⟩
      · obtain ⟨inner, steps, reached⟩ := ih child member lower
        exact ⟨index, inner :: steps, (descends _).trans reached⟩

theorem mem_cons_descendants_of_descend? {place found : Place} {steps : List Nat}
    (reached : place.descend? steps = some found) : found ∈ place :: place.descendants := by
  induction steps generalizing place with
  | nil =>
      cases reached
      exact List.mem_cons_self
  | cons index rest ih =>
      rw [descend?] at reached
      cases inside : place.node.children[index]? with
      | none => simp [inside] at reached
      | some node =>
          simp only [inside] at reached
          have member : place.child index node ∈ place.children := by
            obtain ⟨smaller, rfl⟩ := List.getElem?_eq_some_iff.1 inside
            exact List.mem_mapIdx.2 ⟨index, smaller, rfl⟩
          rcases List.mem_cons.1 (ih reached) with rfl | lower
          · exact List.mem_cons_of_mem _ (mem_descendants_of_mem_children member)
          · exact List.mem_cons_of_mem _ (mem_descendants_of_child member lower)

/-- The places at or below a place are those that some steps lead to from there. -/
theorem mem_cons_descendants_iff {place found : Place} :
    found ∈ place :: place.descendants ↔ ∃ steps, place.descend? steps = some found := by
  constructor
  · intro member
    rcases List.mem_cons.1 member with rfl | below
    · exact ⟨[], rfl⟩
    · obtain ⟨index, steps, reached⟩ := exists_descend?_of_mem_descendants below
      exact ⟨index :: steps, reached⟩
  · rintro ⟨steps, reached⟩
    exact mem_cons_descendants_of_descend? reached

/-- A place comes before everything below it in document order. -/
theorem path_lt_of_mem_descendants {place found : Place} (below : found ∈ place.descendants) :
    place.path < found.path := by
  obtain ⟨index, steps, reached⟩ := exists_descend?_of_mem_descendants below
  have behind : place.path ++ [] < place.path ++ index :: steps :=
    List.append_left_lt (List.nil_lt_cons index steps)
  rw [path_of_descend? reached]
  rwa [List.append_nil] at behind

/-- The places at or below a place are listed in document order, so that none of them is listed twice. -/
theorem cons_descendants_pairwise (place : Place) :
    (place :: place.descendants).Pairwise fun first second => first.path < second.path := by
  induction place using induction_on_children with
  | step place ih =>
      refine List.pairwise_cons.2 ⟨fun found below => path_lt_of_mem_descendants below, ?_⟩
      rw [descendants_eq_flatMap, List.pairwise_flatMap]
      refine ⟨ih, place.children_pairwise_before.imp ?_⟩
      intro earlier later before found below other lower
      obtain ⟨steps, reached⟩ := mem_cons_descendants_iff.1 below
      obtain ⟨path, reachedOther⟩ := mem_cons_descendants_iff.1 lower
      exact (before.descend? reached reachedOther).path_lt

end ArticleRules.Place
