/-
This file keeps values under names, in the order of the names. The order is that of their code points,
which is also the order of their bytes.
-/

namespace ArticleRules

/-- A value replaces the one under the same name. -/
def insertByName (name : String) (value : α) : List (String × α) → List (String × α)
  | [] => [(name, value)]
  | entry :: rest =>
    if name < entry.1 then (name, value) :: entry :: rest
    else if name = entry.1 then (name, value) :: rest
    else entry :: insertByName name value rest

/-- Insertion adds one value and no other. -/
theorem mem_insertByName {name : String} {value : α} {entries : List (String × α)}
    {entry : String × α} (member : entry ∈ insertByName name value entries) :
    entry = (name, value) ∨ entry ∈ entries := by
  induction entries with
  | nil => exact Or.inl (List.mem_singleton.1 member)
  | cons head rest ih =>
      unfold insertByName at member
      split at member
      · exact List.mem_cons.1 member
      · split at member
        · obtain same | later := List.mem_cons.1 member
          · exact Or.inl same
          · exact Or.inr (List.mem_cons_of_mem _ later)
        · obtain rfl | later := List.mem_cons.1 member
          · exact Or.inr List.mem_cons_self
          · exact (ih later).imp_right (List.mem_cons_of_mem _)

/-- Insertion keeps the names in order. -/
theorem insertByName_ordered (name : String) (value : α) (entries : List (String × α))
    (ordered : entries.Pairwise fun first second => first.1 < second.1) :
    (insertByName name value entries).Pairwise fun first second => first.1 < second.1 := by
  induction entries with
  | nil => exact List.pairwise_singleton _ _
  | cons head rest ih =>
      obtain ⟨above, restOrdered⟩ := List.pairwise_cons.1 ordered
      unfold insertByName
      split
      · rename_i before
        refine List.pairwise_cons.2 ⟨fun entry member => ?_, ordered⟩
        obtain rfl | later := List.mem_cons.1 member
        · exact before
        · exact String.lt_trans before (above entry later)
      · rename_i notBefore
        split
        · rename_i equal
          exact List.pairwise_cons.2 ⟨fun entry member => equal ▸ above entry member, restOrdered⟩
        · rename_i different
          refine List.pairwise_cons.2 ⟨fun entry member => ?_, ih restOrdered⟩
          obtain rfl | later := mem_insertByName member
          · refine Classical.byContradiction fun notAfter => different ?_
            exact String.le_antisymm (String.not_lt.1 notAfter) (String.not_lt.1 notBefore)
          · exact above entry later

/-- No two values are under the same name. -/
structure NameMap (α : Type) where
  entries : List (String × α)
  ordered : entries.Pairwise fun first second => first.1 < second.1

namespace NameMap

def empty : NameMap α :=
  ⟨[], List.Pairwise.nil⟩

def insert (map : NameMap α) (name : String) (value : α) : NameMap α :=
  ⟨insertByName name value map.entries, insertByName_ordered name value map.entries map.ordered⟩

def find? (map : NameMap α) (name : String) : Option α :=
  (map.entries.find? (·.1 == name)).map Prod.snd

def contains (map : NameMap α) (name : String) : Bool :=
  (map.find? name).isSome

def names (map : NameMap α) : List String :=
  map.entries.map Prod.fst

end NameMap

end ArticleRules
