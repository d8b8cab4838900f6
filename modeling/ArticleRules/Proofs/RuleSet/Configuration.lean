import ArticleRules.Proofs.Element.Flaw
import ArticleRules.NameMap
import ArticleRules.RuleSet.Catalog
import ArticleRules.RuleSet.Reading

/-
This file shows that building rules fails for their configuration alone. Selectors, properties, the entries of
a rule set and the set itself are looked at before any content is.
-/

namespace ArticleRules

/-- Only the configuration of rules is to blame if the computation fails. -/
abbrev BlamesConfiguration (outcome : Except Error α) : Prop :=
  FailsOnlyWith Error.isConfiguration outcome

theorem Selector.read_blames (text : String) : BlamesConfiguration (Selector.read text) := by
  unfold read
  dsimp only
  split
  · exact FailsOnlyWith.pure _
  · split
    · exact FailsOnlyWith.pure _
    · exact FailsOnlyWith.throw rfl

theorem GetterTable.get_blames (table : GetterTable) (name : String) :
    BlamesConfiguration (table.get name) := by
  unfold get
  split
  · exact FailsOnlyWith.pure _
  · exact FailsOnlyWith.throw rfl

theorem Property.build_blames (table : GetterTable) (name getterName selector : String)
    (attributeName : Option String) :
    BlamesConfiguration (Property.build table name getterName selector attributeName) := by
  refine (table.get_blames getterName).bind fun getter => ?_
  have reads : BlamesConfiguration (do
      return (⟨name, getter, ← Selector.read selector, attributeName⟩ : Property)) :=
    (Selector.read_blames selector).bind fun _ => .pure _
  cases missing : getter.needsAttribute && attributeName.isNone with
  | true => exact FailsOnlyWith.throw rfl
  | false => exact reads

theorem Kind.read_blames (name : String) : BlamesConfiguration (Kind.read name) := by
  unfold read
  split
  · exact FailsOnlyWith.pure _
  · exact FailsOnlyWith.throw rfl

namespace Pattern

theorem read_blames (text : String) : BlamesConfiguration (Pattern.read text) :=
  (Selector.read_blames text).bind fun _ => .pure _

theorem expectAny_blames (pattern : Pattern) (rule : String) (names : List String) :
    BlamesConfiguration (pattern.expectAny rule names) := by
  unfold expectAny
  split
  · exact FailsOnlyWith.pure _
  · exact FailsOnlyWith.throw rfl

end Pattern

namespace Rule

theorem metadata?_blames (pattern : Pattern) : BlamesConfiguration (metadata? pattern) :=
  (pattern.expectAny_blames _ _).bind fun _ => .pure _

theorem interactive?_blames (pattern : Pattern) : BlamesConfiguration (interactive? pattern) :=
  (pattern.expectAny_blames _ _).bind fun _ => .pure _

theorem video?_blames (pattern : Pattern) : BlamesConfiguration (video? pattern) :=
  (pattern.expectAny_blames _ _).bind fun _ => .pure _

end Rule

namespace RuleEntry

theorem requireSelector_blames (entry : RuleEntry) : BlamesConfiguration entry.requireSelector := by
  unfold requireSelector
  split
  · exact FailsOnlyWith.pure _
  · exact FailsOnlyWith.throw rfl

theorem contextOr_blames (entry : RuleEntry) (default : Kind) :
    BlamesConfiguration (entry.contextOr default) := by
  unfold contextOr
  split
  · exact Kind.read_blames _
  · exact FailsOnlyWith.pure _

/-- Properties are built one after the other, and those that the rule does not read are not looked at. -/
theorem pattern_blames (entry : RuleEntry) (table : GetterTable) (names : List String) :
    BlamesConfiguration (entry.pattern table names) := by
  refine entry.requireSelector_blames.bind fun selector => ?_
  refine (Pattern.read_blames selector).bind fun pattern => ?_
  refine FailsOnlyWith.foldlM (fun pattern property => ?_) _ pattern
  unfold defineAmong
  split
  · exact (Property.build_blames _ _ _ _ _).bind fun _ => .pure _
  · exact FailsOnlyWith.pure _

end RuleEntry

namespace RuleFactory

/-- The factories of the rules of the library. -/
def builtIn : List RuleFactory :=
  [metadata, header, headerTitle, headerKicker, interactive, video, caption, passThrough, ignore]

theorem builtIn_blames {factory : RuleFactory} (member : factory ∈ builtIn) (entry : RuleEntry)
    (table : GetterTable) : BlamesConfiguration (factory entry table) := by
  have patterns : ∀ names, BlamesConfiguration (entry.pattern table names) := entry.pattern_blames table
  simp only [builtIn, List.mem_cons, List.not_mem_nil, or_false] at member
  rcases member with rfl | rfl | rfl | rfl | rfl | rfl | rfl | rfl | rfl
  · exact (patterns _).bind Rule.metadata?_blames
  · exact (patterns _).bind fun _ => .pure _
  · exact (patterns _).bind fun _ => .pure _
  · exact (patterns _).bind fun _ => .pure _
  · exact (patterns _).bind Rule.interactive?_blames
  · exact (patterns _).bind Rule.video?_blames
  · exact (patterns _).bind fun _ => (entry.contextOr_blames _).bind fun _ => .pure _
  · exact (patterns _).bind fun _ => (entry.contextOr_blames _).bind fun _ => .pure _
  · exact (patterns _).bind fun _ => (entry.contextOr_blames _).bind fun _ => .pure _

end RuleFactory

namespace RuleCatalog

/-- Every factory of the catalog is one of the given ones. -/
def Offers (catalog : RuleCatalog) (factories : List RuleFactory) : Prop :=
  ∀ entry ∈ catalog.factories.entries, entry.2 ∈ factories

theorem Offers.register {catalog : RuleCatalog} {factories : List RuleFactory} {factory : RuleFactory}
    (offers : catalog.Offers factories) (name : String) (member : factory ∈ factories) :
    (catalog.register name factory).Offers factories := by
  intro entry among
  obtain rfl | before := mem_insertByName among
  · exact member
  · exact offers entry before

theorem builtIn_offers : builtIn.Offers RuleFactory.builtIn := by
  have offersNone : empty.Offers RuleFactory.builtIn := by
    intro entry among
    cases among
  unfold builtIn
  repeat' apply Offers.register
  · exact offersNone
  all_goals simp [RuleFactory.builtIn]

/-- Whatever its class is, the entry is given to a factory of the library or to none. -/
theorem build_blames (entry : RuleEntry) (table : GetterTable) :
    BlamesConfiguration (builtIn.build entry table) := by
  unfold build
  split
  · rename_i factory found
    obtain ⟨stored, among, rfl⟩ := Option.map_eq_some_iff.1 found
    have member := builtIn_offers stored (List.mem_of_find?_eq_some among)
    exact RuleFactory.builtIn_blames member entry table
  · exact FailsOnlyWith.throw rfl

end RuleCatalog

theorem Converter.register_blames (converter : Converter) (rules : RuleSet) (table : GetterTable) :
    BlamesConfiguration (converter.register rules .builtIn table) := by
  have builds := FailsOnlyWith.mapM (fun entry => RuleCatalog.build_blames entry table) rules.rules
  exact builds.bind fun _ => .pure _

theorem RuleSet.ofJson_blames (text : String) : BlamesConfiguration (RuleSet.ofJson text) := by
  unfold ofJson
  split
  · exact FailsOnlyWith.pure _
  · exact FailsOnlyWith.throw rfl

end ArticleRules
