import ArticleRules.Proofs.NameMap
import ArticleRules.RuleSet.Catalog
import Mathlib.Data.List.TakeWhile

/-
This file says which factory a catalog uses after any registrations. Registration keeps a name as it is
given, but a class is looked up by what follows its last backslash. So the newest factory under a plain
name is used, and a factory under a qualified name never is.
-/

namespace ArticleRules

namespace RuleCatalog

/-- Registers factories one after the other. -/
def registerAll (catalog : RuleCatalog) (entries : List (String × RuleFactory)) : RuleCatalog :=
  entries.foldl (fun catalog entry => catalog.register entry.1 entry.2) catalog

/-- The factory that was registered last under exactly this name. -/
def newest? (entries : List (String × RuleFactory)) (name : String) : Option RuleFactory :=
  (entries.reverse.find? (·.1 == name)).map Prod.snd

/-- A name is qualified if it has a namespace, which ends in a backslash. -/
def isQualified (name : String) : Bool :=
  name.toList.contains '\\'

/-- The catalog knows the name, and it builds all entries of this class with the factory. -/
structure Uses (catalog : RuleCatalog) (name : String) (factory : RuleFactory) : Prop where
  known : catalog.contains name = true
  builds : ∀ entry table, entry.ruleClass = name → catalog.build entry table = factory entry table

section shortName

variable {name : String}

theorem bne_of_plain (plain : isQualified name = false) :
    ∀ character ∈ name.toList.reverse, (character != '\\') = true := by
  intro character member
  rw [bne_iff_ne]
  rintro rfl
  rw [isQualified, List.contains_iff_mem.2 (List.mem_reverse.1 member)] at plain
  cases plain

theorem shortName_of_plain (plain : isQualified name = false) : shortName name = name := by
  rw [shortName, List.takeWhile_eq_self_iff.2 (bne_of_plain plain), List.reverse_reverse,
    String.ofList_toList]

/-- Of a qualified name, what follows the last backslash counts. -/
theorem shortName_append (namespaces : String) (plain : isQualified name = false) :
    shortName (namespaces ++ "\\" ++ name) = name := by
  have backwards : (namespaces ++ "\\" ++ name).toList.reverse =
      name.toList.reverse ++ '\\' :: namespaces.toList.reverse := by simp
  rw [shortName, backwards, List.takeWhile_append_of_pos (bne_of_plain plain),
    List.takeWhile_cons_of_neg Bool.false_ne_true, List.append_nil, List.reverse_reverse,
    String.ofList_toList]

theorem shortName_plain (name : String) : isQualified (shortName name) = false := by
  rw [← Bool.not_eq_true, isQualified, shortName, String.toList_ofList, List.contains_iff_mem,
    List.mem_reverse]
  intro member
  have other := List.mem_takeWhile_imp member
  cases other

end shortName

section newest?

variable {entries : List (String × RuleFactory)} {name : String} {factory : RuleFactory}

theorem newest?_cons (entry : String × RuleFactory) (rest : List (String × RuleFactory))
    (name : String) :
    newest? (entry :: rest) name =
      (newest? rest name).or (if entry.1 = name then some entry.2 else none) := by
  rw [newest?, List.reverse_cons, List.find?_append, Option.map_or, newest?]
  congr 1
  rw [List.find?_singleton]
  simp only [beq_iff_eq]
  split <;> rfl

/-- Names under which something was registered have a newest factory. -/
theorem exists_newest? (member : name ∈ entries.map Prod.fst) :
    ∃ factory, newest? entries name = some factory := by
  obtain ⟨entry, among, rfl⟩ := List.mem_map.1 member
  rw [← Option.isSome_iff_exists, newest?, Option.isSome_map, List.find?_isSome]
  exact ⟨entry, List.mem_reverse.2 among, beq_self_eq_true _⟩

/-- For a plain name it does not matter what is registered under qualified ones. -/
theorem newest?_filter_plain (plain : isQualified name = false)
    (entries : List (String × RuleFactory)) :
    newest? (entries.filter (!isQualified ·.1)) name = newest? entries name := by
  rw [newest?, ← List.filter_reverse, List.find?_filter, newest?]
  congr 2
  funext entry
  cases same : entry.1 == name with
  | false => simp
  | true => simp [eq_of_beq same, plain]

/-- After all registrations, the newest of them counts for its name, and else what was there before. -/
theorem find?_registerAll (catalog : RuleCatalog) (entries : List (String × RuleFactory))
    (name : String) :
    (catalog.registerAll entries).factories.find? name =
      (newest? entries name).or (catalog.factories.find? name) := by
  induction entries generalizing catalog with
  | nil => rfl
  | cons entry rest ih =>
      have later := ih (catalog.register entry.1 entry.2)
      rw [register, NameMap.find?_insert] at later
      rw [newest?_cons, Option.or_assoc]
      refine later.trans ?_
      congr 1
      split <;> rfl

end newest?

section registerAll

variable {entries : List (String × RuleFactory)} {name : String} {factory : RuleFactory}

/-- The newest factory under a plain name is used for the name. -/
theorem uses_newest? (catalog : RuleCatalog) (plain : isQualified name = false)
    (newest : newest? entries name = some factory) :
    (catalog.registerAll entries).Uses name factory := by
  have found : (catalog.registerAll entries).factories.find? (shortName name) = some factory := by
    rw [shortName_of_plain plain, find?_registerAll, newest, Option.some_or]
  constructor
  case known => rw [contains, NameMap.contains, found, Option.isSome_some]
  case builds =>
      rintro entry table rfl
      rw [build, found]

/-- What a class is looked up by is found the same without the qualified names. -/
theorem find?_shortName_filter (catalog : RuleCatalog) (entries : List (String × RuleFactory))
    (name : String) :
    (catalog.registerAll (entries.filter (!isQualified ·.1))).factories.find? (shortName name) =
      (catalog.registerAll entries).factories.find? (shortName name) := by
  rw [find?_registerAll, find?_registerAll, newest?_filter_plain (shortName_plain name)]

/-- Registered factories can be reached, under plain names only. Every name that is registered has a newest
factory. If the name is plain, the catalog knows it and builds its entries with this factory, so names
do not shadow each other. What is registered under qualified names makes no difference: the same names
are known without it, and every entry is built alike. -/
theorem registerAll_uses (catalog : RuleCatalog) (entries : List (String × RuleFactory)) :
    (∀ name ∈ entries.map Prod.fst, ∃ factory, newest? entries name = some factory ∧
      (isQualified name = false → (catalog.registerAll entries).Uses name factory)) ∧
    (∀ name, (catalog.registerAll entries).contains name =
      (catalog.registerAll (entries.filter (!isQualified ·.1))).contains name) ∧
    ∀ entry table, (catalog.registerAll entries).build entry table =
      (catalog.registerAll (entries.filter (!isQualified ·.1))).build entry table := by
  refine ⟨fun name member => ?_, fun name => ?_, fun entry table => ?_⟩
  · obtain ⟨factory, newest⟩ := exists_newest? member
    exact ⟨factory, newest, fun plain => uses_newest? catalog plain newest⟩
  · rw [contains, contains, NameMap.contains, NameMap.contains, find?_shortName_filter]
  · rw [build, build, find?_shortName_filter]

/-- A factory that was registered under a qualified name is not found under it. -/
theorem not_uses_qualified :
    newest? [("Vendor\\Title", RuleFactory.headerTitle)] "Vendor\\Title" =
        some RuleFactory.headerTitle ∧
      ¬ (empty.registerAll [("Vendor\\Title", RuleFactory.headerTitle)]).Uses "Vendor\\Title"
        RuleFactory.headerTitle ∧
      (empty.registerAll [("Vendor\\Title", RuleFactory.headerTitle)]).build
          { ruleClass := "Vendor\\Title", selector := some Selector.itselfName } .builtIn =
        .error (.unknownRule "Vendor\\Title") := by
  refine ⟨rfl, fun uses => ?_, rfl⟩
  have unknown : (empty.registerAll [("Vendor\\Title", RuleFactory.headerTitle)]).contains
      "Vendor\\Title" = false := rfl
  rw [uses.known] at unknown
  cases unknown

end registerAll

end RuleCatalog

end ArticleRules
