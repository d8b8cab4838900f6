import ArticleRules.Proofs.Tree.Children
import Mathlib.Data.List.Chain
import Mathlib.Order.Bounds.Defs

/-
This file measures how far a tree goes down through elements. The height of a node is the length of the
longest chain from the node on, in which each further node is an element among the children of the one
before.
-/

namespace ArticleRules

namespace Node

mutual

/-- A node is one higher than the tallest element among its children. -/
def height : Node → Nat
  | document children | fragment children | element _ children => 1 + tallest children
  | doctype _ | comment _ | text _ | instruction _ _ => 1

/-- The height of the tallest element among nodes, or zero if there is none. -/
def tallest : List Node → Nat
  | [] => 0
  | node :: rest => max (if node.isElement then height node else 0) (tallest rest)

end

/-- A step down leads to an element among the children. -/
def LeadsTo (node child : Node) : Prop :=
  child ∈ node.children ∧ child.isElement = true

theorem height_eq (node : Node) : node.height = 1 + tallest node.children := by
  cases node <;> simp only [height, children, tallest]

theorem tallest_cons_of_element {node : Node} (isElement : node.isElement = true) (rest : List Node) :
    tallest (node :: rest) = max node.height (tallest rest) := by
  rw [tallest, if_pos isElement]

theorem tallest_cons_of_other {node : Node} (other : node.isElement = false) (rest : List Node) :
    tallest (node :: rest) = tallest rest := by
  simp [tallest, other]

theorem height_le_tallest {node : Node} {nodes : List Node} (member : node ∈ nodes)
    (isElement : node.isElement = true) : node.height ≤ tallest nodes := by
  induction nodes with
  | nil => cases member
  | cons first rest ih =>
      rw [tallest]
      obtain rfl | member := List.mem_cons.1 member
      · rw [if_pos isElement]
        exact Nat.le_max_left _ _
      · exact (ih member).trans (Nat.le_max_right _ _)

/-- Where there are elements, one of them is the tallest. -/
theorem exists_height_eq_tallest {nodes : List Node} (present : tallest nodes ≠ 0) :
    ∃ node ∈ nodes, node.isElement = true ∧ node.height = tallest nodes := by
  induction nodes with
  | nil => exact absurd rfl present
  | cons first rest ih =>
      cases isElement : first.isElement with
      | false =>
          rw [tallest_cons_of_other isElement] at present ⊢
          obtain ⟨node, member, tall⟩ := ih present
          exact ⟨node, List.mem_cons_of_mem _ member, tall⟩
      | true =>
          rw [tallest_cons_of_element isElement]
          obtain smaller | larger := Nat.le_total (tallest rest) first.height
          · exact ⟨first, List.mem_cons_self, isElement, (Nat.max_eq_left smaller).symm⟩
          · have positive : 0 < first.height := by
              rw [height_eq]
              omega
            obtain ⟨node, member, element, tall⟩ := ih (by omega)
            exact ⟨node, List.mem_cons_of_mem _ member, element, by rw [tall, Nat.max_eq_right larger]⟩

/-- A step down loses height. -/
theorem LeadsTo.height_lt {node child : Node} (leads : node.LeadsTo child) :
    child.height < node.height := by
  have smaller := height_le_tallest leads.1 leads.2
  rw [node.height_eq]
  omega

theorem length_le_height {node : Node} {chain : List Node} (leads : (node :: chain).IsChain LeadsTo) :
    (node :: chain).length ≤ node.height := by
  induction chain generalizing node with
  | nil =>
      rw [height_eq, List.length_singleton]
      omega
  | cons child rest ih =>
      obtain ⟨step, leads⟩ := List.isChain_cons_cons.1 leads
      have shorter := ih leads
      have lower := step.height_lt
      rw [List.length_cons]
      omega

theorem exists_chain (node : Node) :
    ∃ chain, (node :: chain).IsChain LeadsTo ∧ (node :: chain).length = node.height := by
  induction node using induction_on_children with
  | step node ih =>
      by_cases leaf : tallest node.children = 0
      · refine ⟨[], List.isChain_singleton node, ?_⟩
        rw [height_eq, leaf, List.length_singleton]
      · obtain ⟨child, member, isElement, tall⟩ := exists_height_eq_tallest leaf
        obtain ⟨chain, leads, length⟩ := ih child member
        refine ⟨child :: chain, List.isChain_cons_cons.2 ⟨⟨member, isElement⟩, leads⟩, ?_⟩
        rw [List.length_cons, length, tall, node.height_eq, Nat.add_comm]

/-- The height of a node is the length of the longest chain that starts at the node and goes down through
elements. -/
theorem isGreatest_height (node : Node) :
    IsGreatest {length | ∃ chain, (node :: chain).IsChain LeadsTo ∧ (node :: chain).length = length}
      node.height := by
  refine ⟨node.exists_chain, ?_⟩
  rintro length ⟨chain, leads, rfl⟩
  exact length_le_height leads

end Node

namespace Place

/-- A step down leads to the place of an element among the children. -/
def LeadsTo (place child : Place) : Prop :=
  child ∈ place.children ∧ child.isElement = true

/-- The height of the tallest element among places, or zero if there is none. -/
def tallest (places : List Place) : Nat :=
  Node.tallest (places.map node)

theorem height_eq (place : Place) : place.node.height = 1 + tallest place.children := by
  rw [Node.height_eq, tallest, map_node_children]

theorem tallest_cons_of_element {place : Place} (isElement : place.isElement = true)
    (rest : List Place) :
    tallest (place :: rest) = max (1 + tallest place.children) (tallest rest) := by
  rw [← height_eq]
  exact Node.tallest_cons_of_element isElement _

theorem tallest_cons_of_other {place : Place} (other : place.isElement = false) (rest : List Place) :
    tallest (place :: rest) = tallest rest :=
  Node.tallest_cons_of_other other _

/-- What leaves room for the tallest of some places also leaves room for the later ones. -/
theorem tallest_fits_tail {place : Place} {rest : List Place} {depth limit : Nat}
    (fits : depth + tallest (place :: rest) ≤ limit) : depth + tallest rest ≤ limit := by
  have lower : tallest rest ≤ tallest (place :: rest) := Nat.le_max_right _ _
  omega

/-- A chain of places is no longer than the node it starts at is high. -/
theorem length_le_height {place : Place} {chain : List Place}
    (leads : (place :: chain).IsChain LeadsTo) : (place :: chain).length ≤ place.node.height := by
  have steps : ((place :: chain).map node).IsChain Node.LeadsTo :=
    List.isChain_map_of_isChain node (fun _ _ step => ⟨node_mem_of_mem_children step.1, step.2⟩) leads
  rw [← List.length_map node]
  exact Node.length_le_height steps

end Place

end ArticleRules
