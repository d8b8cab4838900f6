import ArticleRules.Proofs.Element.Flaw
import ArticleRules.RuleSet.Catalog

/-
This file shows that a rule set is registered as a whole or not at all. Here registration changes a
converter in place, first building all rules and then adding one after the other. A failure comes before
the first change, and two sets in a row are registered like one.
-/

namespace ArticleRules

section mapM

variable {make : α → Except Error β} {error : Error}

/-- What is made of a list is made of its elements, in order. -/
theorem map_eq_of_mapM_eq_ok {values : List α} {results : List β}
    (passed : values.mapM make = .ok results) : values.map make = results.map .ok := by
  induction values generalizing results with
  | nil =>
      cases passed
      rfl
  | cons value rest ih =>
      rw [List.mapM_cons] at passed
      obtain ⟨result, first, passed⟩ := Except.bind_eq_ok passed
      obtain ⟨others, later, ended⟩ := Except.bind_eq_ok passed
      cases ended
      rw [List.map_cons, List.map_cons, first, ih later]

/-- The first element of which nothing can be made says why the whole fails. -/
theorem exists_first_of_mapM_eq_error {values : List α} (failed : values.mapM make = .error error) :
    ∃ before value after, values = before ++ value :: after ∧
      (∀ earlier ∈ before, ∃ result, make earlier = .ok result) ∧ make value = .error error := by
  induction values with
  | nil => cases failed
  | cons value rest ih =>
      rw [List.mapM_cons] at failed
      obtain first | ⟨result, first, failed⟩ := Except.bind_eq_error failed
      · exact ⟨[], value, rest, rfl, nofun, first⟩
      · obtain later | ⟨others, later, ended⟩ := Except.bind_eq_error failed
        · obtain ⟨before, failing, after, split, passed, fails⟩ := ih later
          refine ⟨value :: before, failing, after, by rw [split, List.cons_append], ?_, fails⟩
          exact List.forall_mem_cons.2 ⟨⟨result, first⟩, passed⟩
        · cases ended

end mapM

namespace RuleSet

/-- The entries of the second set come after those of the first one. -/
instance : Append RuleSet where
  append first second := ⟨first.rules ++ second.rules⟩

/-- Registers a rule set by changing a converter. What is changed before a failure stays changed. -/
def registration (rules : RuleSet) (catalog : RuleCatalog) (table : GetterTable) :
    ExceptT Error (StateM Converter) Unit := do
  let built ← MonadExcept.ofExcept (rules.rules.mapM (catalog.build · table))
  built.forM fun rule => modify fun converter => converter.addRule rule

/-- How a registration ends, and the converter that it leaves behind. -/
def registerIn (rules : RuleSet) (catalog : RuleCatalog) (table : GetterTable) (converter : Converter) :
    Except Error Unit × Converter :=
  (rules.registration catalog table).run.run converter

section registerIn

variable {rules second : RuleSet} {catalog : RuleCatalog} {table : GetterTable} {built : List Rule}
  {error : Error}

/-- Rules that are added one by one come in order after those before. -/
theorem run_addRule (built : List Rule) (converter : Converter) :
    (built.forM fun rule => modify fun converter => converter.addRule rule :
      ExceptT Error (StateM Converter) Unit).run converter = (.ok (), converter.addRules built) := by
  induction built generalizing converter with
  | nil =>
      rw [Converter.addRules, List.append_nil]
      rfl
  | cons rule rest ih =>
      have later := ih (converter.addRule rule)
      rw [Converter.addRules, Converter.addRule, List.append_assoc] at later
      exact later

theorem registerIn_of_built (passed : rules.rules.mapM (catalog.build · table) = .ok built)
    (converter : Converter) :
    rules.registerIn catalog table converter = (.ok (), converter.addRules built) := by
  rw [registerIn, registration, passed]
  exact run_addRule built converter

theorem registerIn_of_refused (failed : rules.rules.mapM (catalog.build · table) = .error error)
    (converter : Converter) : rules.registerIn catalog table converter = (.error error, converter) := by
  rw [registerIn, registration, failed]
  rfl

/-- A registration in place ends like one that gives back the extended converter. -/
theorem registerIn_eq_register (rules : RuleSet) (catalog : RuleCatalog) (table : GetterTable)
    (converter : Converter) :
    rules.registerIn catalog table converter =
      match converter.register rules catalog table with
      | .ok extended => (.ok (), extended)
      | .error error => (.error error, converter) := by
  rw [Converter.register]
  cases built : rules.rules.mapM (catalog.build · table) with
  | ok rules => exact registerIn_of_built built converter
  | error error => exact registerIn_of_refused built converter

theorem append_rules (first second : RuleSet) : (first ++ second).rules = first.rules ++ second.rules :=
  rfl

/-- If both sets can be built, they are registered together as one after the other. -/
theorem registerIn_append_of_built {others : List Rule}
    (passed : rules.rules.mapM (catalog.build · table) = .ok built)
    (passedToo : second.rules.mapM (catalog.build · table) = .ok others) (converter : Converter) :
    (rules ++ second).registerIn catalog table converter =
      (.ok (), (converter.addRules built).addRules others) := by
  have together : (rules ++ second).rules.mapM (catalog.build · table) = .ok (built ++ others) := by
    rw [append_rules, List.mapM_append, passed, passedToo]
    rfl
  rw [registerIn_of_built together, Converter.addRules, Converter.addRules, Converter.addRules,
    List.append_assoc]

/-- A first set that cannot be built decides alone. -/
theorem registerIn_append_of_refused (failed : rules.rules.mapM (catalog.build · table) = .error error)
    (second : RuleSet) (converter : Converter) :
    (rules ++ second).registerIn catalog table converter = (.error error, converter) := by
  refine registerIn_of_refused ?_ converter
  rw [append_rules, List.mapM_append, failed]
  rfl

/-- A second set that cannot be built undoes nothing, since no rule of the first one was added. -/
theorem registerIn_append_of_later (passed : rules.rules.mapM (catalog.build · table) = .ok built)
    (failed : second.rules.mapM (catalog.build · table) = .error error) (converter : Converter) :
    (rules ++ second).registerIn catalog table converter = (.error error, converter) := by
  refine registerIn_of_refused ?_ converter
  rw [append_rules, List.mapM_append, passed, failed]
  rfl

/-- Registration succeeds if every entry can be built. -/
theorem registerIn_eq_ok_iff (rules : RuleSet) (catalog : RuleCatalog) (table : GetterTable)
    (converter : Converter) :
    (rules.registerIn catalog table converter).1 = .ok () ↔
      ∀ entry ∈ rules.rules, ∃ rule, catalog.build entry table = .ok rule := by
  cases outcome : rules.rules.mapM (catalog.build · table) with
  | ok built =>
      rw [registerIn_of_built outcome]
      refine ⟨fun _ entry member => ?_, fun _ => rfl⟩
      have among : catalog.build entry table ∈ built.map .ok := by
        rw [← map_eq_of_mapM_eq_ok outcome]
        exact List.mem_map_of_mem member
      obtain ⟨rule, _, builds⟩ := List.mem_map.1 among
      exact ⟨rule, builds.symm⟩
  | error error =>
      rw [registerIn_of_refused outcome]
      refine ⟨nofun, fun each => ?_⟩
      obtain ⟨before, entry, after, split, _, fails⟩ := exists_first_of_mapM_eq_error outcome
      have member : entry ∈ rules.rules := by
        rw [split]
        exact List.mem_append_right _ List.mem_cons_self
      obtain ⟨rule, builds⟩ := each entry member
      rw [builds] at fails
      cases fails

/-- Registration that succeeds adds the rules in the order of their entries, and changes nothing else. -/
theorem exists_built_of_registerIn {converter : Converter}
    (passed : (rules.registerIn catalog table converter).1 = .ok ()) :
    ∃ built, rules.rules.map (catalog.build · table) = built.map .ok ∧
      (rules.registerIn catalog table converter).2 =
        { converter with rules := converter.rules ++ built } := by
  cases outcome : rules.rules.mapM (catalog.build · table) with
  | ok built =>
      rw [registerIn_of_built outcome]
      exact ⟨built, map_eq_of_mapM_eq_ok outcome, rfl⟩
  | error error =>
      rw [registerIn_of_refused outcome] at passed
      cases passed

/-- Registration that fails changes nothing, and the first entry that cannot be built says why. -/
theorem exists_refused_of_registerIn {converter : Converter}
    (failed : (rules.registerIn catalog table converter).1 = .error error) :
    (rules.registerIn catalog table converter).2 = converter ∧
      ∃ before entry after, rules.rules = before ++ entry :: after ∧
        (∀ earlier ∈ before, ∃ rule, catalog.build earlier table = .ok rule) ∧
        catalog.build entry table = .error error := by
  cases outcome : rules.rules.mapM (catalog.build · table) with
  | ok built =>
      rw [registerIn_of_built outcome] at failed
      cases failed
  | error failure =>
      rw [registerIn_of_refused outcome] at failed ⊢
      cases failed
      exact ⟨rfl, exists_first_of_mapM_eq_error outcome⟩

/-- A rule set is registered as a whole or not at all. Registration succeeds if every entry can be built,
and then it adds the rules in the order of the entries and changes nothing else. Otherwise it changes
nothing, and it has the error of the first entry that cannot be built. Registering two sets as one
succeeds if registering them one after the other does, and then it leaves the same converter. If it
fails, it has the error of the first of the two that fails, and it leaves the converter as it was, without
any rule of the first set. -/
theorem registerIn_allOrNothing (rules : RuleSet) (catalog : RuleCatalog) (table : GetterTable)
    (converter : Converter) :
    ((rules.registerIn catalog table converter).1 = .ok () ↔
      ∀ entry ∈ rules.rules, ∃ rule, catalog.build entry table = .ok rule) ∧
    ((rules.registerIn catalog table converter).1 = .ok () →
      ∃ built, rules.rules.map (catalog.build · table) = built.map .ok ∧
        (rules.registerIn catalog table converter).2 =
          { converter with rules := converter.rules ++ built }) ∧
    (∀ error, (rules.registerIn catalog table converter).1 = .error error →
      (rules.registerIn catalog table converter).2 = converter ∧
        ∃ before entry after, rules.rules = before ++ entry :: after ∧
          (∀ earlier ∈ before, ∃ rule, catalog.build earlier table = .ok rule) ∧
          catalog.build entry table = .error error) ∧
    ∀ second : RuleSet,
      let first := rules.registerIn catalog table converter
      let next := second.registerIn catalog table first.2
      let together := (rules ++ second).registerIn catalog table converter
      (together.1 = .ok () ↔ first.1 = .ok () ∧ next.1 = .ok ()) ∧
      (together.1 = .ok () → together.2 = next.2) ∧
      ∀ error, together.1 = .error error →
        together.2 = converter ∧
          (first.1 = .error error ∨ first.1 = .ok () ∧ next.1 = .error error) := by
  refine ⟨rules.registerIn_eq_ok_iff catalog table converter, exists_built_of_registerIn,
    fun error => exists_refused_of_registerIn, fun second => ?_⟩
  dsimp only
  cases built : rules.rules.mapM (catalog.build · table) with
  | error failure =>
      rw [registerIn_of_refused built, registerIn_append_of_refused built]
      exact ⟨⟨nofun, fun passed => nomatch passed.1⟩, nofun, fun error same => ⟨rfl, Or.inl same⟩⟩
  | ok first =>
      rw [registerIn_of_built built]
      cases builtToo : second.rules.mapM (catalog.build · table) with
      | error failure =>
          rw [registerIn_of_refused builtToo, registerIn_append_of_later built builtToo]
          exact ⟨⟨nofun, fun passed => nomatch passed.2⟩, nofun,
            fun error same => ⟨rfl, Or.inr ⟨rfl, same⟩⟩⟩
      | ok others =>
          rw [registerIn_of_built builtToo, registerIn_append_of_built built builtToo]
          exact ⟨⟨fun _ => ⟨rfl, rfl⟩, fun _ => rfl⟩, fun _ => rfl, nofun⟩

end registerIn

/-- A rule set of one entry of the given class. -/
def itself (ruleClass : String) : RuleSet :=
  ⟨[{ ruleClass, selector := some Selector.itselfName }]⟩

/-- A catalog of one factory. -/
def titles : RuleCatalog :=
  RuleCatalog.empty.register RuleName.headerTitle RuleFactory.headerTitle

/-- One after the other, the first set stays registered when the second one fails. Together, nothing does. -/
theorem registerIn_allOrNothing_titles :
    let title := itself RuleName.headerTitle
    let unknown := itself "Slideshow"
    (title.registerIn titles .builtIn {}).1 = .ok () ∧
      (title.registerIn titles .builtIn {}).2.rules.map Rule.name = [RuleName.headerTitle] ∧
      (unknown.registerIn titles .builtIn (title.registerIn titles .builtIn {}).2).1 =
        .error (.unknownRule "Slideshow") ∧
      ((title ++ unknown).registerIn titles .builtIn {}).1 = .error (.unknownRule "Slideshow") ∧
      ((title ++ unknown).registerIn titles .builtIn {}).2 = {} := by
  have failed : ((itself RuleName.headerTitle ++ itself "Slideshow").registerIn titles .builtIn {}).1 =
      .error (.unknownRule "Slideshow") := rfl
  have separate := registerIn_allOrNothing (itself RuleName.headerTitle) titles .builtIn {}
  obtain ⟨unchanged, _⟩ := (separate.2.2.2 (itself "Slideshow")).2.2 _ failed
  exact ⟨rfl, rfl, rfl, failed, unchanged⟩

end RuleSet

end ArticleRules
