import ArticleRules.Proofs.Element.Requirement
import ArticleRules.Proofs.RuleSet.Lookup
import Mathlib.Data.List.Forall2

/-
This file says what the rule of an entry is. Selectors, properties and patterns list what they require of the
entry that they are built from, in the order in which it is checked.
-/

namespace ArticleRules

open Requirement

/-- The name of a kind is read as the kind. -/
theorem Kind.read_yields (name : String) :
    Yields [⟨∃ kind : Kind, kind.name = name, .misconfigured (.unknownContext name)⟩] (Kind.read name)
      fun kind => kind.name = name := by
  apply Yields.single
  · rintro ⟨kind, rfl⟩
    exact ⟨kind, by cases kind <;> rfl, rfl⟩
  · intro other
    have unknown : ofName? name = none :=
      List.find?_eq_none.2 fun kind _ same => other ⟨kind, eq_of_beq same⟩
    rw [read, unknown]

/-- The fault of a text that is no selector. -/
def Css.faultOf (source : String) : Css.Fault :=
  match Css.parse source with
  | .ok _ => .emptySelector
  | .error fault => fault

namespace Selector

/-- Blank text and the name of the node itself select the node itself, and other text is a style sheet
selector. -/
def requirement (text : String) : Requirement :=
  let source := Text.trim text
  ⟨source = "" ∨ source = itselfName ∨ ∃ compiled, Css.parse source = .ok compiled,
    .invalidSelector source (Css.faultOf source)⟩

theorem read_yields (text : String) :
    Yields [requirement text] (read text) fun selector => read text = .ok selector := by
  apply Yields.single
  · intro met
    unfold read
    dsimp only
    split
    · exact ⟨_, rfl, rfl⟩
    · rename_i other
      simp only [Bool.or_eq_true, beq_iff_eq, not_or] at other
      obtain blank | itself | ⟨compiled, parsed⟩ := met
      · exact absurd blank other.1
      · exact absurd itself other.2
      · rw [parsed]
        exact ⟨_, rfl, rfl⟩
  · intro unmet
    simp only [not_or, not_exists] at unmet
    obtain ⟨blank, itself, faulty⟩ := unmet
    have other : (Text.trim text == "" || Text.trim text == itselfName) = false := by
      simp [blank, itself]
    rw [read, other, Css.faultOf]
    cases parsed : Css.parse (Text.trim text) with
    | ok compiled => exact absurd parsed (faulty compiled)
    | error fault => rfl

/-- A selector that was read is shown as the text without blanks around it. -/
theorem text_of_read {text : String} {selector : Selector} (succeeded : read text = .ok selector) :
    selector.text = if Text.trim text = "" then itselfName else Text.trim text := by
  unfold read at succeeded
  dsimp only at succeeded
  split at succeeded
  · rename_i itself
    cases succeeded
    simp only [Bool.or_eq_true, beq_iff_eq] at itself
    rcases itself with blank | named
    · rw [if_pos blank]
      rfl
    · rw [named]
      rfl
  · rename_i other
    simp only [Bool.or_eq_true, beq_iff_eq, not_or] at other
    rw [if_neg other.1]
    split at succeeded
    · cases succeeded
      rfl
    · cases succeeded

end Selector

namespace Pattern

/-- A pattern starts without properties. -/
theorem read_yields (text : String) :
    Yields [Selector.requirement text] (read text) fun pattern =>
      Selector.read text = .ok pattern.selector ∧ pattern.properties = [] :=
  (Selector.read_yields text).map fun _ read => ⟨read, rfl⟩

/-- A property of a new name is added, and the others are kept. -/
theorem define_new (pattern : Pattern) {property : Property}
    (new : ∀ other ∈ pattern.properties, other.name ≠ property.name) :
    pattern.define property = ⟨pattern.selector, pattern.properties ++ [property]⟩ := by
  rw [define, List.filter_eq_self.2 fun other member => bne_iff_ne.2 (new other member)]

end Pattern

namespace PropertyEntry

/-- The getter has to be known, an attribute has to be named if the getter needs one, and the selector has to be
one. -/
def requirements (entry : PropertyEntry) (table : GetterTable) (name : String) : List Requirement :=
  [⟨table.contains entry.getter = true, .unknownGetter entry.getter⟩,
    ⟨∀ getter, table.get entry.getter = .ok getter → getter.needsAttribute = true →
      entry.attributeName.isSome = true, .misconfigured (.noAttribute name entry.getter)⟩,
    Selector.requirement (entry.selector.getD Selector.itselfName)]

/-- The property has the name, and it has everything else from its entry. -/
structure Describes (entry : PropertyEntry) (table : GetterTable) (name : String)
    (property : Property) : Prop where
  name_eq : property.name = name
  getter : table.get entry.getter = .ok property.getter
  selector : Selector.read (entry.selector.getD Selector.itselfName) = .ok property.selector
  attributeName_eq : property.attributeName = entry.attributeName

theorem get_yields (table : GetterTable) (name : String) :
    Yields [⟨table.contains name = true, .unknownGetter name⟩] (table.get name) fun getter =>
      table.get name = .ok getter := by
  apply Yields.single
  · intro known
    obtain ⟨getter, found⟩ := Option.isSome_iff_exists.1 known
    have gets : table.get name = .ok getter := by rw [GetterTable.get, found]
    exact ⟨getter, gets, gets⟩
  · intro unknown
    have missing : table.getters.find? name = none := by
      simpa [GetterTable.contains, NameMap.contains] using unknown
    rw [GetterTable.get, missing]

/-- The getter is known when its attribute is checked. -/
theorem build_yields (entry : PropertyEntry) (table : GetterTable) (name : String) :
    Yields (entry.requirements table name) (entry.build table name)
      (entry.Describes table name) := by
  refine (get_yields table entry.getter).bind fun getter known => ?_
  have checked : (∀ other, table.get entry.getter = .ok other → other.needsAttribute = true →
      entry.attributeName.isSome = true) ↔
        (getter.needsAttribute && entry.attributeName.isNone) = false := by
    simp only [known, Except.ok.injEq, forall_eq']
    cases getter.needsAttribute <;> cases entry.attributeName <;> simp
  have reads : Yields [Selector.requirement (entry.selector.getD Selector.itselfName)]
      (do return (⟨name, getter, ← Selector.read (entry.selector.getD Selector.itselfName),
        entry.attributeName⟩ : Property)) (entry.Describes table name) :=
    (Selector.read_yields _).map fun selector read => ⟨rfl, known, read, rfl⟩
  cases missing : getter.needsAttribute && entry.attributeName.isNone with
  | true => exact .refused (by simp [checked, missing])
  | false => exact .granted (checked.2 missing) reads

end PropertyEntry

namespace RuleEntry

/-- The properties of an entry that a rule recognizes by their names, in the order of the names. -/
def recognized (entry : RuleEntry) (names : List String) : List (String × PropertyEntry) :=
  entry.properties.entries.filter fun property => names.contains property.1

/-- There has to be a selector, and every property that is recognized has to be one. -/
def patternRequirements (entry : RuleEntry) (table : GetterTable) (names : List String) :
    List Requirement :=
  ⟨entry.selector.isSome = true, .misconfigured (.noSelector entry.ruleClass)⟩ ::
    (entry.selector.elim [] (fun text => [Selector.requirement text]) ++
      (entry.recognized names).flatMap fun property => property.2.requirements table property.1)

/-- The pattern has the selector of the entry, and exactly the properties that are recognized. -/
structure Describes (entry : RuleEntry) (table : GetterTable) (names : List String)
    (pattern : Pattern) : Prop where
  selector : ∃ text, entry.selector = some text ∧ Selector.read text = .ok pattern.selector
  properties : List.Forall₂ (fun definition property =>
    definition.2.Describes table definition.1 property) (entry.recognized names) pattern.properties

/-- Properties are defined one after the other. Names that are still to come are not defined yet, so that every
property is added at the end and replaces none. -/
theorem defineAmong_yields (names : List String) (table : GetterTable)
    (entries : List (String × PropertyEntry))
    (ordered : entries.Pairwise fun first second => first.1 < second.1) (pattern : Pattern)
    (fresh : ∀ property ∈ pattern.properties, ∀ entry ∈ entries, property.name ≠ entry.1) :
    Yields ((entries.filter fun property => names.contains property.1).flatMap fun property =>
        property.2.requirements table property.1)
      (entries.foldlM (defineAmong names table) pattern) fun result =>
        result.selector = pattern.selector ∧ ∃ added,
          result.properties = pattern.properties ++ added ∧
          List.Forall₂ (fun definition property => definition.2.Describes table definition.1 property)
            (entries.filter fun property => names.contains property.1) added := by
  induction entries generalizing pattern with
  | nil => exact .pure ⟨rfl, [], (List.append_nil _).symm, .nil⟩
  | cons entry rest ih =>
      obtain ⟨above, restOrdered⟩ := List.pairwise_cons.1 ordered
      rw [List.foldlM_cons, defineAmong, List.filter_cons]
      cases reads : names.contains entry.1 with
      | false =>
          rw [if_neg Bool.false_ne_true, if_neg Bool.false_ne_true, pure_bind]
          exact ih restOrdered pattern fun property member other among =>
            fresh property member other (List.mem_cons_of_mem _ among)
      | true =>
          rw [if_pos rfl, if_pos rfl, bind_assoc, List.flatMap_cons]
          refine (entry.2.build_yields table entry.1).bind fun property described => ?_
          have new : ∀ other ∈ pattern.properties, other.name ≠ property.name := by
            rw [described.name_eq]
            exact fun other member => fresh other member entry List.mem_cons_self
          rw [pure_bind, pattern.define_new new]
          refine (ih restOrdered _ ?_).mono ?_
          · rintro other member later among
            rcases List.mem_append.1 member with earlier | last
            · exact fresh other earlier later (List.mem_cons_of_mem _ among)
            · rw [List.mem_singleton.1 last, described.name_eq]
              exact String.ne_of_lt (above later among)
          · rintro result ⟨same, added, total, all⟩
            refine ⟨same, property :: added, ?_, .cons described all⟩
            rw [total, List.append_assoc, List.singleton_append]

theorem requireSelector_yields (entry : RuleEntry) :
    Yields [⟨entry.selector.isSome = true, .misconfigured (.noSelector entry.ruleClass)⟩]
      entry.requireSelector fun text => entry.selector = some text := by
  rw [requireSelector]
  cases given : entry.selector with
  | none => exact .refused Bool.false_ne_true
  | some text => exact .granted rfl (.pure rfl)

theorem pattern_yields (entry : RuleEntry) (table : GetterTable) (names : List String) :
    Yields (entry.patternRequirements table names) (entry.pattern table names)
      (entry.Describes table names) := by
  refine entry.requireSelector_yields.bind fun text given => ?_
  rw [given, Option.elim_some]
  refine (Pattern.read_yields text).bind fun start begun => ?_
  have fresh : ∀ property ∈ start.properties, ∀ definition ∈ entry.properties.entries,
      property.name ≠ definition.1 := by
    rw [begun.2]
    exact nofun
  refine (defineAmong_yields names table _ entry.properties.ordered start fresh).mono ?_
  rintro pattern ⟨same, added, total, all⟩
  rw [begun.2, List.nil_append] at total
  exact ⟨⟨text, given, same ▸ begun.1⟩, total ▸ all⟩

namespace Describes

variable {entry : RuleEntry} {table : GetterTable} {names : List String} {pattern : Pattern}

theorem names_eq (described : entry.Describes table names pattern) :
    pattern.properties.map Property.name = (entry.recognized names).map Prod.fst := by
  have named : List.Forall₂ (· = ·) ((entry.recognized names).map Prod.fst)
      (pattern.properties.map Property.name) := by
    rw [List.forall₂_map_left_iff, List.forall₂_map_right_iff]
    exact described.properties.imp fun definition property describes => describes.name_eq.symm
  rw [List.forall₂_eq_eq_eq] at named
  exact named.symm

/-- Among the names that are recognized, the pattern defines those that the entry defines. -/
theorem defines_iff (described : entry.Describes table names pattern) {name : String}
    (among : name ∈ names) : pattern.defines name = true ↔ entry.properties.contains name = true := by
  have defined : pattern.defines name = true ↔ name ∈ pattern.properties.map Property.name := by
    simp [Pattern.defines]
  have given : entry.properties.contains name = true ↔
      name ∈ entry.properties.entries.map Prod.fst := by
    simp [NameMap.contains, NameMap.find?]
  rw [defined, given, described.names_eq, recognized, List.mem_map, List.mem_map]
  simp only [List.mem_filter, List.contains_iff_mem]
  constructor
  · rintro ⟨property, ⟨member, -⟩, rfl⟩
    exact ⟨property, member, rfl⟩
  · rintro ⟨property, member, rfl⟩
    exact ⟨property, ⟨member, among⟩, rfl⟩

/-- The names of the properties are in order, so that no two properties have the same name. -/
theorem find?_eq_some (described : entry.Describes table names pattern) {property : Property}
    (member : property ∈ pattern.properties) :
    pattern.properties.find? (·.name == property.name) = some property := by
  have ordered : (pattern.properties.map Property.name).Pairwise (· < ·) := by
    rw [described.names_eq, List.pairwise_map]
    exact entry.properties.ordered.filter _
  obtain ⟨before, after, parts⟩ := List.append_of_mem member
  rw [parts, List.map_append, List.map_cons] at ordered
  rw [List.find?_eq_some_iff_append]
  refine ⟨beq_self_eq_true _, before, after, parts, fun other earlier => ?_⟩
  have below := (List.pairwise_append.1 ordered).2.2 other.name (List.mem_map_of_mem earlier)
    property.name List.mem_cons_self
  simpa using String.ne_of_lt below

end Describes

end RuleEntry

end ArticleRules
