import ArticleRules.Proofs.Rule.Remarks
import ArticleRules.Proofs.RuleSet.Building

/-
This file says what the rules of the built-in classes are. The classes differ in which properties they
recognize, which of them they cannot do without, and whether an entry chooses the context.
-/

namespace ArticleRules

open Requirement

/-- A class of rules. Where entries choose the context, the one given here is used if they name none. -/
structure RuleClass where
  name : String
  reads : List String
  needs : List String
  context : Kind
  choosesContext : Bool
  make : Pattern → Kind → Rule
  plain : RuleCatalog.isQualified name = false := by decide
  needs_read : ∀ needed ∈ needs, needed ∈ reads := by decide
  /-- Names that are recognized have the same order as their bytes. -/
  bytewise : ∀ first ∈ reads, ∀ second ∈ reads, first < second →
    first.toByteArray.data.toList < second.toByteArray.data.toList := by decide
  make_name : ∀ pattern kind, (make pattern kind).name = name := by intros; rfl
  make_pattern : ∀ pattern kind, (make pattern kind).pattern? = some pattern := by intros; rfl
  make_selector : ∀ pattern kind, (make pattern kind).selector = pattern.selector := by intros; rfl
  make_context : ∀ pattern kind,
    (make pattern kind).context = if choosesContext then kind else context := by intros; rfl

namespace RuleClass

def metadata : RuleClass where
  name := RuleName.metadata
  reads := [PropertyName.canonical, PropertyName.charset, PropertyName.markupVersion,
    PropertyName.automaticAds]
  needs := [PropertyName.canonical]
  context := .article
  choosesContext := false
  make := fun pattern _ => .metadata pattern

def header : RuleClass where
  name := RuleName.header
  reads := []
  needs := []
  context := .article
  choosesContext := false
  make := fun pattern _ => .header pattern

def headerTitle : RuleClass where
  name := RuleName.headerTitle
  reads := []
  needs := []
  context := .header
  choosesContext := false
  make := fun pattern _ => .headerTitle pattern

def headerKicker : RuleClass where
  name := RuleName.headerKicker
  reads := []
  needs := []
  context := .header
  choosesContext := false
  make := fun pattern _ => .headerKicker pattern

def interactive : RuleClass where
  name := RuleName.interactive
  reads := [PropertyName.iframe, PropertyName.url, PropertyName.noMargin, PropertyName.columnWidth,
    PropertyName.height, PropertyName.interactiveCaption]
  needs := [PropertyName.iframe, PropertyName.url]
  context := .article
  choosesContext := false
  make := fun pattern _ => .interactive pattern

def video : RuleClass where
  name := RuleName.video
  reads := [PropertyName.videoUrl, PropertyName.videoType, PropertyName.presentation,
    PropertyName.controls, PropertyName.autoplay, PropertyName.videoCaption]
  needs := [PropertyName.videoUrl]
  context := .article
  choosesContext := false
  make := fun pattern _ => .video pattern

def caption : RuleClass where
  name := RuleName.caption
  reads := [PropertyName.captionTitle, PropertyName.captionCredit]
  needs := []
  context := .interactive
  choosesContext := true
  make := .caption

def passThrough : RuleClass where
  name := RuleName.passThrough
  reads := []
  needs := []
  context := .article
  choosesContext := true
  make := .passThrough

def ignore : RuleClass where
  name := RuleName.ignore
  reads := []
  needs := []
  context := .article
  choosesContext := true
  make := .ignore

/-- The classes that the built-in catalog knows. -/
def all : List RuleClass :=
  [metadata, header, headerTitle, headerKicker, interactive, video, caption, passThrough, ignore]

/-- A class goes by its name, and by its name after namespaces, which end in a backslash. -/
def Names (ruleClass : RuleClass) (qualified : String) : Prop :=
  qualified = ruleClass.name ∨ ∃ namespaces, qualified = namespaces ++ "\\" ++ ruleClass.name

variable {ruleClass : RuleClass} {entry : RuleEntry} {table : GetterTable} {pattern : Pattern}

theorem Names.shortName_eq {qualified : String} (named : ruleClass.Names qualified) :
    RuleCatalog.shortName qualified = ruleClass.name := by
  rcases named with rfl | ⟨namespaces, rfl⟩
  · exact RuleCatalog.shortName_of_plain ruleClass.plain
  · exact RuleCatalog.shortName_append namespaces ruleClass.plain

/-- One of the properties that the class needs has to be defined. -/
def definitionRequirements (ruleClass : RuleClass) (entry : RuleEntry) : List Requirement :=
  if ruleClass.needs.isEmpty then []
  else [⟨∃ needed ∈ ruleClass.needs, entry.properties.contains needed = true,
    .misconfigured (.noDefinition ruleClass.name ruleClass.needs)⟩]

/-- The name of the context that the entry chooses, if it can choose and does. -/
def contextName? (ruleClass : RuleClass) (entry : RuleEntry) : Option String :=
  if ruleClass.choosesContext then entry.context else none

/-- What names a context has to be the name of a kind. -/
def contextRequirements (ruleClass : RuleClass) (entry : RuleEntry) : List Requirement :=
  (ruleClass.contextName? entry).elim [] fun name =>
    [⟨∃ kind : Kind, kind.name = name, .misconfigured (.unknownContext name)⟩]

/-- All that a class requires of an entry, in the order in which it is checked. -/
def requirements (ruleClass : RuleClass) (entry : RuleEntry) (table : GetterTable) :
    List Requirement :=
  entry.patternRequirements table ruleClass.reads ++
    (ruleClass.definitionRequirements entry ++ ruleClass.contextRequirements entry)

def expectNeeds (ruleClass : RuleClass) (pattern : Pattern) : Except Error Unit :=
  if ruleClass.needs.isEmpty then .ok () else pattern.expectAny ruleClass.name ruleClass.needs

def chooseContext (ruleClass : RuleClass) (entry : RuleEntry) : Except Error Kind :=
  if ruleClass.choosesContext then entry.contextOr ruleClass.context else .ok ruleClass.context

def factory (ruleClass : RuleClass) : RuleFactory := fun entry table => do
  let pattern ← entry.pattern table ruleClass.reads
  ruleClass.expectNeeds pattern
  return ruleClass.make pattern (← ruleClass.chooseContext entry)

/-- The catalog builds the rules of a class with its factory. -/
theorem find?_builtIn (known : ruleClass ∈ all) :
    RuleCatalog.builtIn.factories.find? ruleClass.name = some ruleClass.factory := by
  simp only [all, List.mem_cons, List.not_mem_nil, or_false] at known
  rcases known with rfl | rfl | rfl | rfl | rfl | rfl | rfl | rfl | rfl <;> rfl

theorem expectNeeds_yields (described : entry.Describes table ruleClass.reads pattern) :
    Yields (ruleClass.definitionRequirements entry) (ruleClass.expectNeeds pattern) fun _ => True := by
  unfold definitionRequirements expectNeeds
  split
  · exact .pure trivial
  · have defined : ruleClass.needs.any pattern.defines = true ↔
        ∃ needed ∈ ruleClass.needs, entry.properties.contains needed = true := by
      rw [List.any_eq_true]
      refine exists_congr fun needed => and_congr_right fun among => ?_
      exact described.defines_iff (ruleClass.needs_read needed among)
    rw [Pattern.expectAny]
    apply Yields.single
    · intro given
      exact ⟨(), if_pos (defined.2 given), trivial⟩
    · intro missing
      exact if_neg (mt defined.1 missing)

/-- The kind is the one that the entry chooses, or else that of the class. -/
def Chooses (ruleClass : RuleClass) (entry : RuleEntry) (kind : Kind) : Prop :=
  (ruleClass.contextName? entry).elim (kind = ruleClass.context) fun name => kind.name = name

theorem chooseContext_yields (ruleClass : RuleClass) (entry : RuleEntry) :
    Yields (ruleClass.contextRequirements entry) (ruleClass.chooseContext entry)
      (ruleClass.Chooses entry) := by
  unfold contextRequirements chooseContext Chooses contextName?
  cases ruleClass.choosesContext with
  | false => exact .pure rfl
  | true =>
      rw [if_pos rfl, if_pos rfl, RuleEntry.contextOr]
      cases entry.context with
      | none => exact .pure rfl
      | some name => exact Kind.read_yields name

/-- The rule has the name of the class, the selector and the recognized properties of the entry, and the
context that the entry chooses. Every property is found under its name. -/
structure Describes (ruleClass : RuleClass) (entry : RuleEntry) (table : GetterTable)
    (rule : Rule) : Prop where
  name_eq : rule.name = ruleClass.name
  selector : ∃ text, entry.selector = some text ∧ Selector.read text = .ok rule.selector ∧
    rule.selector.text = if Text.trim text = "" then Selector.itselfName else Text.trim text
  context : ruleClass.Chooses entry rule.context
  properties : ∃ pattern, rule.pattern? = some pattern ∧
    List.Forall₂ (fun definition property => definition.2.Describes table definition.1 property)
      (entry.recognized ruleClass.reads) pattern.properties ∧
    ∀ property ∈ pattern.properties,
      pattern.properties.find? (·.name == property.name) = some property

theorem make_describes {kind : Kind} (described : entry.Describes table ruleClass.reads pattern)
    (chosen : ruleClass.Chooses entry kind) :
    ruleClass.Describes entry table (ruleClass.make pattern kind) where
  name_eq := ruleClass.make_name pattern kind
  selector := by
    obtain ⟨text, given, read⟩ := described.selector
    rw [ruleClass.make_selector]
    exact ⟨text, given, read, Selector.text_of_read read⟩
  context := by
    rw [ruleClass.make_context]
    split
    · exact chosen
    · rename_i fixed
      rw [Chooses, contextName?, if_neg fixed, Option.elim_none]
  properties := ⟨pattern, ruleClass.make_pattern pattern kind, described.properties,
    fun _ member => described.find?_eq_some member⟩

theorem factory_yields (ruleClass : RuleClass) (entry : RuleEntry) (table : GetterTable) :
    Yields (ruleClass.requirements entry table) (ruleClass.factory entry table)
      (ruleClass.Describes entry table) := by
  refine (entry.pattern_yields table ruleClass.reads).bind fun pattern described => ?_
  refine (expectNeeds_yields described).bind fun _ _ => ?_
  exact (ruleClass.chooseContext_yields entry).map fun _ chosen => make_describes described chosen

/-- Properties that are recognized are checked in the order of the bytes of their names. -/
theorem recognized_bytewise (ruleClass : RuleClass) (entry : RuleEntry) :
    (entry.recognized ruleClass.reads).Pairwise fun first second =>
      first.1.toByteArray.data.toList < second.1.toByteArray.data.toList := by
  refine (entry.properties.ordered.filter _).imp_of_mem fun earlier later before => ?_
  exact ruleClass.bytewise _ (List.contains_iff_mem.1 (List.mem_filter.1 earlier).2) _
    (List.contains_iff_mem.1 (List.mem_filter.1 later).2) before

end RuleClass

namespace RuleCatalog

/-- What an entry of a built-in class builds. There is a rule if all is met that the class requires, and it
is the one that the entry describes. Otherwise the first requirement that is not met says what is wrong. -/
theorem builtIn_build {ruleClass : RuleClass} (known : ruleClass ∈ RuleClass.all) {entry : RuleEntry}
    (named : ruleClass.Names entry.ruleClass) (table : GetterTable) :
    ((∃ rule, builtIn.build entry table = .ok rule) ↔ AllMet (ruleClass.requirements entry table)) ∧
    (∀ rule, builtIn.build entry table = .ok rule → ruleClass.Describes entry table rule) ∧
    (∀ error, builtIn.build entry table = .error error ↔
      FirstUnmet (ruleClass.requirements entry table) error) ∧
    (entry.recognized ruleClass.reads).Pairwise fun first second =>
      first.1.toByteArray.data.toList < second.1.toByteArray.data.toList := by
  have builds : builtIn.build entry table = ruleClass.factory entry table := by
    rw [build, named.shortName_eq, RuleClass.find?_builtIn known]
  have yields := ruleClass.factory_yields entry table
  rw [builds]
  exact ⟨yields.exists_eq_ok_iff, fun _ => yields.of_eq_ok, fun _ => yields.eq_error_iff,
    ruleClass.recognized_bytewise entry⟩

/-- A credit is a caption of a video, and its property of another name is passed over. -/
def credit : RuleEntry where
  ruleClass := "Vendor\\Rules\\CaptionRule"
  selector := some " .credit "
  context := some "Video"
  properties := NameMap.empty
    |>.insert PropertyName.captionTitle { getter := "attribute", attributeName := some "title" }
    |>.insert "caption.margin" { getter := "length" }

theorem builtIn_build_credit :
    RuleClass.caption ∈ RuleClass.all ∧ RuleClass.caption.Names credit.ruleClass ∧
      AllMet (RuleClass.caption.requirements credit .builtIn) ∧
      ∃ rule, builtIn.build credit .builtIn = .ok rule ∧
        RuleClass.caption.Describes credit .builtIn rule := by
  have known : RuleClass.caption ∈ RuleClass.all := by simp [RuleClass.all]
  have named : RuleClass.caption.Names credit.ruleClass := Or.inr ⟨"Vendor\\Rules", rfl⟩
  obtain ⟨succeeds, describes, -⟩ := builtIn_build known named .builtIn
  have built : (builtIn.build credit .builtIn).toOption.isSome = true := by decide +kernel
  cases builds : builtIn.build credit .builtIn with
  | ok rule => exact ⟨known, named, succeeds.1 ⟨rule, builds⟩, rule, rfl, describes rule builds⟩
  | error error =>
      rw [builds] at built
      cases built

end RuleCatalog

end ArticleRules
