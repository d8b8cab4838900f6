import ArticleRules.Json.Value
import Mathlib.Data.List.Basic

/-
This file compares JSON values without regard to the order of the members of objects, and reads members by
their names. What is read by name is read alike from values that are the same.
-/

namespace ArticleRules.Json

/-- Two values are the same if they differ at most in the order of the members of objects. Of several members
of one name the first one counts. -/
inductive Same : Json → Json → Prop where
  | null : Same null null
  | flag (value : Bool) : Same (flag value) (flag value)
  | number (value : Nat) : Same (number value) (number value)
  | text (value : String) : Same (text value) (text value)
  | list {items others : List Json} (length : items.length = others.length)
      (each : ∀ (index : Nat) (left : index < items.length) (right : index < others.length),
        Same items[index] others[index]) :
      Same (list items) (list others)
  | object {members others : List (String × Json)}
      (names : ∀ name, (members.lookup name).isSome = (others.lookup name).isSome)
      (each : ∀ name left right, members.lookup name = some left → others.lookup name = some right →
        Same left right) :
      Same (object members) (object others)

/-- No object has two members of one name, at no level of nesting. -/
inductive Distinct : Json → Prop where
  | null : Distinct null
  | flag (value : Bool) : Distinct (flag value)
  | number (value : Nat) : Distinct (number value)
  | text (value : String) : Distinct (text value)
  | list {items : List Json} (each : ∀ item ∈ items, Distinct item) : Distinct (list items)
  | object {members : List (String × Json)} (names : (members.map Prod.fst).Nodup)
      (each : ∀ entry ∈ members, Distinct entry.2) : Distinct (object members)

section lookup

variable {members others : List (String × Json)} {name : String} {value : Json}

theorem mem_of_lookup (found : members.lookup name = some value) : (name, value) ∈ members := by
  obtain ⟨before, after, rfl, _⟩ := List.lookup_eq_some_iff.1 found
  simp

theorem lookup_of_mem (names : (members.map Prod.fst).Nodup) (member : (name, value) ∈ members) :
    members.lookup name = some value := by
  induction members with
  | nil => cases member
  | cons entry rest ih =>
      obtain ⟨absent, distinct⟩ := List.nodup_cons.1 names
      rcases List.mem_cons.1 member with rfl | later
      · exact List.lookup_cons_self
      · obtain ⟨other, first⟩ := entry
        have different : (name == other) = false := by
          rw [beq_eq_false_iff_ne]
          rintro rfl
          exact absent (List.mem_map.2 ⟨_, later, rfl⟩)
        rw [List.lookup_cons, different]
        exact ih distinct later

/-- The order of members with different names makes no difference. -/
theorem lookup_of_perm (names : (members.map Prod.fst).Nodup) (arranged : members.Perm others) :
    members.lookup name = others.lookup name := by
  have otherNames : (others.map Prod.fst).Nodup := (arranged.map Prod.fst).nodup_iff.1 names
  apply Option.ext
  intro value
  constructor
  · intro found
    exact lookup_of_mem otherNames (arranged.subset (mem_of_lookup found))
  · intro found
    exact lookup_of_mem names (arranged.symm.subset (mem_of_lookup found))

theorem lookup_member? (name other : String) (value : Option Json) :
    (member? name value).lookup other = if other = name then value else none := by
  cases value with
  | none => simp [member?]
  | some value =>
      rw [member?, List.lookup_cons, List.lookup_nil]
      by_cases same : other = name
      · simp [same]
      · rw [if_neg same, beq_eq_false_iff_ne.2 same]

end lookup

/-- Members that have some of the given names, in this order, and distinct values. -/
structure Fields (names : List String) (members : List (String × Json)) : Prop where
  names : (members.map Prod.fst).Sublist names
  values : ∀ entry ∈ members, Distinct entry.2

namespace Fields

variable {names moreNames : List String} {members others : List (String × Json)} {name : String}

theorem single {value : Json} (distinct : Distinct value) : Fields [name] [(name, value)] :=
  ⟨List.Sublist.refl _, List.forall_mem_singleton.2 distinct⟩

theorem optional {value : Option α} {write : α → Json} (distinct : ∀ value, Distinct (write value)) :
    Fields [name] (member? name (value.map write)) := by
  cases value with
  | none => exact ⟨List.nil_sublist _, nofun⟩
  | some value => exact single (distinct value)

theorem append (first : Fields names members) (second : Fields moreNames others) :
    Fields (names ++ moreNames) (members ++ others) := by
  refine ⟨?_, List.forall_mem_append.2 ⟨first.values, second.values⟩⟩
  rw [List.map_append]
  exact first.names.append second.names

theorem distinct (fields : Fields names members) (different : names.Nodup) :
    Distinct (.object members) :=
  .object (fields.names.nodup different) fields.values

end Fields

namespace Same

theorem refl : ∀ value : Json, Same value value
  | .null => null
  | .flag value => flag value
  | .number value => number value
  | .text value => text value
  | .list items => by
      refine list rfl fun index left _ => ?_
      have smaller : sizeOf items[index] < sizeOf items := List.sizeOf_lt_of_mem (List.getElem_mem left)
      exact refl items[index]
  | .object members => by
      refine object (fun _ => rfl) fun name left right found same => ?_
      cases found.symm.trans same
      have smaller : sizeOf left < sizeOf members := by
        have entry := List.sizeOf_lt_of_mem (mem_of_lookup found)
        rw [Prod.mk.sizeOf_spec] at entry
        omega
      exact refl left
termination_by value => sizeOf value

/-- Objects with the same members in another order are the same. -/
theorem of_perm {members others : List (String × Json)} (names : (members.map Prod.fst).Nodup)
    (arranged : members.Perm others) : Same (.object members) (.object others) := by
  refine object (fun name => by rw [lookup_of_perm names arranged]) fun name left right found same => ?_
  rw [← lookup_of_perm names arranged, found] at same
  cases same
  exact refl left

/-- A member is missing in both objects, or it is the same in both. -/
theorem lookup_cases {members others : List (String × Json)}
    (same : Same (.object members) (.object others)) (name : String) :
    (members.lookup name = none ∧ others.lookup name = none) ∨
      ∃ left right, members.lookup name = some left ∧ others.lookup name = some right ∧
        Same left right := by
  cases same with
  | object names each =>
      have both := names name
      cases found : members.lookup name with
      | none =>
          rw [found, Option.isSome_none, eq_comm, Option.isSome_eq_false_iff,
            Option.isNone_iff_eq_none] at both
          exact Or.inl ⟨rfl, both⟩
      | some left =>
          rw [found, Option.isSome_some, eq_comm, Option.isSome_iff_exists] at both
          obtain ⟨right, foundToo⟩ := both
          exact Or.inr ⟨left, right, rfl, foundToo, each name left right found foundToo⟩

end Same

def asText? : Json → Option String
  | text value => some value
  | _ => none

/-- A choice is written as its name. -/
def asNamed? (ofName? : String → Option α) (json : Json) : Option α :=
  json.asText?.bind ofName?

def asFlag? : Json → Option Bool
  | flag value => some value
  | _ => none

/-- A number of pixels fits 32 bits. -/
def asPixels? : Json → Option UInt32
  | number value => if value < UInt32.size then some value.toUInt32 else none
  | _ => none

/-- Reads a member that has to be there. -/
def required? (read : Json → Option α) (name : String) (members : List (String × Json)) : Option α :=
  (members.lookup name).bind read

/-- Reads a member that may be left out. -/
def optional? (read : Json → Option α) (name : String) (members : List (String × Json)) :
    Option (Option α) :=
  match members.lookup name with
  | some value => (read value).map some
  | none => some none

/-- Values that are the same are read alike. -/
def Respects (read : Json → Option α) : Prop :=
  ∀ left right, Same left right → read left = read right

section Respects

variable {read : Json → Option α} {members others : List (String × Json)} {name : String}

theorem asText?_respects : Respects asText? := by
  intro left right same
  cases same <;> rfl

theorem asNamed?_respects (ofName? : String → Option α) : Respects (asNamed? ofName?) := by
  intro left right same
  rw [asNamed?, asNamed?, asText?_respects left right same]

theorem asFlag?_respects : Respects asFlag? := by
  intro left right same
  cases same <;> rfl

theorem asPixels?_respects : Respects asPixels? := by
  intro left right same
  cases same <;> rfl

theorem required?_of_same (respects : Respects read)
    (same : Same (.object members) (.object others)) (name : String) :
    required? read name members = required? read name others := by
  rcases same.lookup_cases name with ⟨missing, missingToo⟩ | ⟨left, right, found, foundToo, agree⟩
  · rw [required?, required?, missing, missingToo]
  · rw [required?, required?, found, foundToo, Option.bind_some, Option.bind_some,
      respects left right agree]

theorem optional?_of_same (respects : Respects read)
    (same : Same (.object members) (.object others)) (name : String) :
    optional? read name members = optional? read name others := by
  rcases same.lookup_cases name with ⟨missing, missingToo⟩ | ⟨left, right, found, foundToo, agree⟩
  · rw [optional?, optional?, missing, missingToo]
  · simp only [optional?, found, foundToo, respects left right agree]

theorem required?_of_lookup {write : α → Json} (reads : ∀ value, read (write value) = some value)
    {value : α} (found : members.lookup name = some (write value)) :
    required? read name members = some value := by
  rw [required?, found, Option.bind_some, reads]

/-- What is written only if it is there is read back, and so is that it is not there. -/
theorem optional?_of_lookup {write : α → Json} (reads : ∀ value, read (write value) = some value)
    {value : Option α} (found : members.lookup name = value.map write) :
    optional? read name members = some value := by
  cases value with
  | none => simp only [optional?, found, Option.map_none]
  | some value => simp only [optional?, found, Option.map_some, reads]

end Respects

end ArticleRules.Json
