import ArticleRules.Property.Pattern
import Mathlib.Data.List.Induction
import Mathlib.Data.List.Nodup
import Mathlib.Order.Bounds.Basic

/-
This file shows that the properties of a pattern are a map from their names. Whatever is defined, and however
often, each name has the property that was defined last under it, and the properties stand in the order of
these last definitions.
-/

namespace ArticleRules

namespace Property

/-- The property that is defined last under this name. -/
def last? (definitions : List Property) (name : String) : Option Property :=
  definitions.reverse.find? (·.name == name)

/-- The last definition of this name stands at this position. -/
def LastAt (definitions : List Property) (name : String) (position : Nat) : Prop :=
  IsGreatest {index | definitions[index]?.map Property.name = some name} position

/-- The last definition of one name stands before the last definition of the other. -/
def LastBefore (definitions : List Property) (first second : String) : Prop :=
  ∃ earlier later, earlier < later ∧ LastAt definitions first earlier ∧
    LastAt definitions second later

section last?

variable {definitions : List Property} {property : Property} {name other : String} {position : Nat}

/-- One more definition is the last one of its name, and no other name is concerned. -/
theorem last?_concat (definitions : List Property) (property : Property) (name : String) :
    last? (definitions ++ [property]) name =
      if property.name = name then some property else last? definitions name := by
  rw [last?, List.reverse_concat, List.find?_cons]
  by_cases same : property.name = name
  · rw [beq_iff_eq.2 same, if_pos same]
  · rw [beq_eq_false_iff_ne.2 same, if_neg same]
    rfl

theorem name_of_last? (found : last? definitions name = some property) : property.name = name := by
  have named := List.find?_some found
  exact eq_of_beq named

theorem isSome_last?_iff :
    (last? definitions name).isSome = true ↔ name ∈ definitions.map Property.name := by
  rw [last?, List.find?_isSome, List.mem_map]
  simp only [List.mem_reverse, beq_iff_eq]

theorem LastAt.lt_length (last : LastAt definitions name position) :
    position < definitions.length := by
  obtain ⟨property, there, _⟩ := Option.map_eq_some_iff.1 last.1
  exact (List.getElem?_eq_some_iff.1 there).1

theorem lastAt_concat_same (definitions : List Property) (property : Property) :
    LastAt (definitions ++ [property]) property.name definitions.length := by
  constructor
  · show (definitions ++ [property])[definitions.length]?.map Property.name = _
    rw [List.getElem?_concat_length, Option.map_some]
  · intro index named
    obtain ⟨other, there, _⟩ := Option.map_eq_some_iff.1 named
    have inside := (List.getElem?_eq_some_iff.1 there).1
    rw [List.length_append, List.length_singleton] at inside
    exact Nat.le_of_lt_succ inside

/-- The last definition of a name stays the last one if another name is defined. -/
theorem LastAt.concat (last : LastAt definitions name position) (different : property.name ≠ name) :
    LastAt (definitions ++ [property]) name position := by
  constructor
  · show (definitions ++ [property])[position]?.map Property.name = _
    rw [List.getElem?_append_left last.lt_length]
    exact last.1
  · intro index named
    change (definitions ++ [property])[index]?.map Property.name = _ at named
    rw [List.getElem?_append] at named
    split at named
    · exact last.2 named
    · obtain ⟨new, there, rfl⟩ := Option.map_eq_some_iff.1 named
      have same := List.mem_singleton.1 (List.mem_of_getElem? there)
      exact absurd (congrArg Property.name same.symm) different

theorem exists_lastAt (found : last? definitions name = some property) :
    ∃ position, LastAt definitions name position := by
  induction definitions using List.reverseRecOn with
  | nil => cases found
  | append_singleton definitions new ih =>
      rw [last?_concat] at found
      split at found
      · rename_i same
        exact ⟨_, same ▸ lastAt_concat_same definitions new⟩
      · rename_i different
        obtain ⟨position, last⟩ := ih found
        exact ⟨position, last.concat different⟩

theorem LastBefore.concat (before : LastBefore definitions name other)
    (different : property.name ≠ name) (differentToo : property.name ≠ other) :
    LastBefore (definitions ++ [property]) name other := by
  obtain ⟨earlier, later, inOrder, last, lastOther⟩ := before
  exact ⟨earlier, later, inOrder, last.concat different, lastOther.concat differentToo⟩

theorem lastBefore_concat_same {last : Property} (found : last? definitions name = some last)
    (different : property.name ≠ name) :
    LastBefore (definitions ++ [property]) name property.name := by
  obtain ⟨position, lastAt⟩ := exists_lastAt found
  exact ⟨position, definitions.length, lastAt.lt_length, lastAt.concat different,
    lastAt_concat_same definitions property⟩

end last?

end Property

namespace Pattern

/-- A pattern with this selector whose properties are defined one after the other. -/
def ofDefinitions (selector : Selector) (definitions : List Property) : Pattern :=
  definitions.foldl define ⟨selector, []⟩

/-- The pattern has one property for each name that is defined, the last one, and the properties are in the
order of these last definitions. -/
structure KeepsLast (pattern : Pattern) (definitions : List Property) : Prop where
  distinct : (pattern.properties.map Property.name).Nodup
  mem_iff : ∀ property, property ∈ pattern.properties ↔
    Property.last? definitions property.name = some property
  ordered : pattern.properties.Pairwise fun first second =>
    Property.LastBefore definitions first.name second.name

/-- Of the properties before it, a definition leaves those of other names. -/
theorem mem_properties_define (pattern : Pattern) (property other : Property) :
    other ∈ (pattern.define property).properties ↔
      other ∈ pattern.properties.filter (·.name != property.name) ∨ other = property := by
  rw [define, List.mem_append, List.mem_singleton]

theorem mem_filter_name {pattern : Pattern} {property other : Property} :
    other ∈ pattern.properties.filter (·.name != property.name) ↔
      other ∈ pattern.properties ∧ property.name ≠ other.name := by
  rw [List.mem_filter, bne_iff_ne, ne_comm]

namespace KeepsLast

variable {pattern : Pattern} {definitions : List Property}

theorem blank (selector : Selector) : KeepsLast ⟨selector, []⟩ [] :=
  ⟨List.nodup_nil, fun _ => ⟨nofun, nofun⟩, List.Pairwise.nil⟩

/-- One more definition is kept in place of an earlier one of its name, behind all others. -/
theorem define (kept : pattern.KeepsLast definitions) (property : Property) :
    (pattern.define property).KeepsLast (definitions ++ [property]) := by
  constructor
  case distinct =>
      rw [Pattern.define, List.map_append, List.nodup_append]
      refine ⟨kept.distinct.sublist (List.filter_sublist.map _), List.nodup_singleton _, ?_⟩
      intro name among new last
      obtain ⟨other, member, rfl⟩ := List.mem_map.1 among
      rw [List.mem_singleton.1 last]
      exact (mem_filter_name.1 member).2.symm
  case mem_iff =>
      intro other
      rw [mem_properties_define, mem_filter_name, Property.last?_concat, kept.mem_iff]
      by_cases same : property.name = other.name
      · simp [same, eq_comm]
      · have distinct : other ≠ property := fun equal => same (congrArg Property.name equal.symm)
        simp [same, distinct]
  case ordered =>
      rw [Pattern.define, List.pairwise_append]
      refine ⟨?_, List.pairwise_singleton _ _, ?_⟩
      · refine (kept.ordered.filter _).imp_of_mem fun memberFirst memberSecond before => ?_
        exact before.concat (mem_filter_name.1 memberFirst).2 (mem_filter_name.1 memberSecond).2
      · intro other member new last
        obtain ⟨among, different⟩ := mem_filter_name.1 member
        rw [List.mem_singleton.1 last]
        exact Property.lastBefore_concat_same ((kept.mem_iff other).1 among) different

theorem foldl_define (kept : pattern.KeepsLast definitions) (more : List Property) :
    (more.foldl Pattern.define pattern).KeepsLast (definitions ++ more) := by
  induction more generalizing pattern definitions with
  | nil => simpa using kept
  | cons property rest ih => simpa using ih (kept.define property)

theorem ofDefinitions (selector : Selector) (definitions : List Property) :
    (Pattern.ofDefinitions selector definitions).KeepsLast definitions :=
  (blank selector).foldl_define definitions

/-- Under each name, the last definition is found. -/
theorem find?_eq (kept : pattern.KeepsLast definitions) (name : String) :
    pattern.properties.find? (·.name == name) = Property.last? definitions name := by
  cases last : Property.last? definitions name with
  | none =>
      refine List.find?_eq_none.2 fun other member named => ?_
      have found := (kept.mem_iff other).1 member
      rw [eq_of_beq named, last] at found
      cases found
  | some property =>
      obtain rfl := Property.name_of_last? last
      have member := (kept.mem_iff property).2 last
      have finds : (pattern.properties.find? (·.name == property.name)).isSome = true :=
        List.find?_isSome.2 ⟨property, member, beq_self_eq_true _⟩
      obtain ⟨other, found⟩ := Option.isSome_iff_exists.1 finds
      have named := List.find?_some found
      have lastOther := (kept.mem_iff other).1 (List.mem_of_find?_eq_some found)
      rw [eq_of_beq named, last] at lastOther
      rw [found, lastOther]

end KeepsLast

/-- Exactly the names of the definitions are defined, and the last definition of a name is evaluated for it. -/
structure ReadsLast (pattern : Pattern) (definitions : List Property) : Prop where
  defines_iff : ∀ name, pattern.defines name = true ↔ name ∈ definitions.map Property.name
  value? : ∀ name place, pattern.value? name place =
    (Property.last? definitions name).bind (·.value? place)
  truthy? : ∀ name place, pattern.truthy? name place =
    ((Property.last? definitions name).bind (·.value? place)).filter PropertyValue.isTruthy
  require : ∀ rule name place, pattern.require rule name place =
    (((Property.last? definitions name).bind (·.value? place)).filter PropertyValue.isTruthy).elim
      (.error (.missingProperty rule name place.node.describe)) .ok

/-- Two patterns define the same names, and they read the same values, fail alike where a value is missing, and
fail alike where a definition is. -/
structure Alike (first second : Pattern) : Prop where
  defines : ∀ name, second.defines name = first.defines name
  value? : ∀ name place, second.value? name place = first.value? name place
  truthy? : ∀ name place, second.truthy? name place = first.truthy? name place
  require : ∀ rule name place, second.require rule name place = first.require rule name place
  expectAny : ∀ rule names, second.expectAny rule names = first.expectAny rule names

section value?

variable {pattern other : Pattern} {place : Place}
  (same : ∀ name, other.value? name place = pattern.value? name place)

include same

theorem truthy?_congr (name : String) : other.truthy? name place = pattern.truthy? name place := by
  rw [truthy?, truthy?, same]

theorem require_congr (rule name : String) :
    other.require rule name place = pattern.require rule name place := by
  rw [require, require, truthy?_congr same]

end value?

section find?

variable {pattern first second : Pattern} {definitions : List Property}

theorem defines_eq (pattern : Pattern) (name : String) :
    pattern.defines name = (pattern.properties.find? (·.name == name)).isSome := by
  rw [defines, Bool.eq_iff_iff, List.any_eq_true, List.find?_isSome]

theorem value?_eq (pattern : Pattern) (name : String) (place : Place) :
    pattern.value? name place =
      (pattern.properties.find? (·.name == name)).bind (·.value? place) := rfl

theorem require_eq (pattern : Pattern) (rule name : String) (place : Place) :
    pattern.require rule name place = (pattern.truthy? name place).elim
      (.error (.missingProperty rule name place.node.describe)) .ok := by
  rw [require]
  cases pattern.truthy? name place <;> rfl

theorem KeepsLast.readsLast (kept : pattern.KeepsLast definitions) :
    pattern.ReadsLast definitions := by
  have value? (name : String) (place : Place) : pattern.value? name place =
      (Property.last? definitions name).bind (·.value? place) := by
    rw [value?_eq, kept.find?_eq]
  constructor
  case defines_iff =>
      intro name
      rw [defines_eq, kept.find?_eq, Property.isSome_last?_iff]
  case value? => exact value?
  case truthy? =>
      intro name place
      rw [Pattern.truthy?, value?]
  case require =>
      intro rule name place
      rw [require_eq, Pattern.truthy?, value?]

/-- Patterns are alike if the same property is found in both under each name. -/
theorem alike_of_find? (same : ∀ name, second.properties.find? (·.name == name) =
    first.properties.find? (·.name == name)) : first.Alike second := by
  have defines (name : String) : second.defines name = first.defines name := by
    rw [defines_eq, defines_eq, same]
  have value? (name : String) (place : Place) : second.value? name place = first.value? name place := by
    rw [value?_eq, value?_eq, same]
  constructor
  case defines => exact defines
  case value? => exact value?
  case truthy? => exact fun name place => truthy?_congr (value? · place) name
  case require => exact fun rule name place => require_congr (value? · place) rule name
  case expectAny =>
      intro rule names
      rw [Pattern.expectAny, Pattern.expectAny, funext defines]

/-- Definitions with the same last property under each name make patterns that are alike. -/
theorem alike_ofDefinitions {others : List Property} (selector : Selector)
    (same : ∀ name, Property.last? others name = Property.last? definitions name) :
    (ofDefinitions selector definitions).Alike (ofDefinitions selector others) :=
  alike_of_find? fun name => by
    rw [(KeepsLast.ofDefinitions selector others).find?_eq,
      (KeepsLast.ofDefinitions selector definitions).find?_eq, same]

end find?

end Pattern

end ArticleRules
