import ArticleRules.NameMap

/-
This file says what is found after an insertion by name.
-/

namespace ArticleRules

/-- Insertion changes what is found under one name, and nothing else. -/
theorem find?_insertByName (name other : String) (value : α) (entries : List (String × α)) :
    (insertByName name value entries).find? (·.1 == other) =
      if name = other then some (name, value) else entries.find? (·.1 == other) := by
  induction entries with
  | nil =>
      rw [insertByName, List.find?_singleton]
      simp only [beq_iff_eq, List.find?_nil]
  | cons entry rest ih =>
      rw [insertByName]
      -- The order of the entries says where the new one goes, but not what is found.
      by_cases same : name = other
      · subst same
        rw [if_pos rfl] at ih ⊢
        split
        · exact List.find?_cons_of_pos (beq_self_eq_true name)
        · split
          · exact List.find?_cons_of_pos (beq_self_eq_true name)
          · rename_i different
            rw [List.find?_cons_of_neg (by simpa using Ne.symm different), ih]
      · rw [if_neg same] at ih ⊢
        split
        · exact List.find?_cons_of_neg (by simpa using same)
        · split
          · rename_i equal
            rw [List.find?_cons_of_neg (by simpa using same),
              List.find?_cons_of_neg (by simpa [← equal] using same)]
          · rw [List.find?_cons, List.find?_cons, ih]

theorem NameMap.find?_insert (map : NameMap α) (name other : String) (value : α) :
    (map.insert name value).find? other = if name = other then some value else map.find? other := by
  rw [find?, insert, find?_insertByName]
  split <;> rfl

end ArticleRules
