import ArticleRules.Proofs.Property.Remarks
import ArticleRules.Proofs.Rule.Dispatch

/-
This file shows that a rule of the library makes the same plan at two places from which its properties read
alike. A place reads like its counterpart in the tree without remarks, unless its markup is asked for.
-/

namespace ArticleRules

/-- From two places a pattern reads the same texts, the same values count as set, and none is embedded as
markup. -/
structure Pattern.ReadsAlike (pattern : Pattern) (first second : Place) : Prop where
  label : second.node.describe = first.node.describe
  text : second.textContent = first.textContent
  values : ∀ name, (pattern.value? name second).map PropertyValue.reading =
    (pattern.value? name first).map PropertyValue.reading
  noMarkup : pattern.value? PropertyName.iframe first = none

namespace Pattern

section ReadsAlike

variable {pattern : Pattern} {first second : Place}

/-- The text of a property that counts as set. -/
def truthyText? (pattern : Pattern) (name : String) (place : Place) : Option String :=
  (pattern.truthy? name place).map PropertyValue.toText

theorem truthyText?_eq (pattern : Pattern) (name : String) (place : Place) :
    pattern.truthyText? name place =
      (((pattern.value? name place).map PropertyValue.reading).filter Prod.snd).map Prod.fst := by
  rw [truthyText?, truthy?]
  cases pattern.value? name place with
  | none => rfl
  | some value =>
      simp only [Option.map_some, Option.filter_some, PropertyValue.reading]
      cases value.isTruthy <;> rfl

theorem isTruthy_eq (pattern : Pattern) (name : String) (place : Place) :
    pattern.isTruthy name place = (pattern.truthyText? name place).isSome := by
  rw [isTruthy, truthyText?, Option.isSome_map]

theorem setText_eq (pattern : Pattern) (name : String) (place : Place) (element : α)
    (set : α → String → Except Error α) :
    pattern.setText name place element set =
      match pattern.truthyText? name place with
      | some text => set element text
      | none => .ok element := by
  rw [setText, truthyText?]
  cases pattern.truthy? name place <;> rfl

theorem height?_eq (pattern : Pattern) (place : Place) :
    pattern.height? place =
      match pattern.truthyText? PropertyName.height place with
      | none => .ok none
      | some text =>
        match readPixels text with
        | .ok pixels => .ok (some pixels)
        | .error refusal => .error (.invalidValue .interactiveHeight text refusal) := by
  rw [height?, truthyText?]
  cases pattern.truthy? PropertyName.height place <;> rfl

theorem readsFalse_eq (pattern : Pattern) (name : String) (place : Place) :
    pattern.readsFalse name place =
      ((pattern.value? name place).map PropertyValue.reading).any (Text.trim ·.1 == "false") := by
  rw [readsFalse, Option.any_map]
  rfl

namespace ReadsAlike

theorem truthyText? (alike : pattern.ReadsAlike first second) (name : String) :
    pattern.truthyText? name second = pattern.truthyText? name first := by
  rw [truthyText?_eq, truthyText?_eq, alike.values]

theorem isTruthy (alike : pattern.ReadsAlike first second) (name : String) :
    pattern.isTruthy name second = pattern.isTruthy name first := by
  rw [isTruthy_eq, isTruthy_eq, alike.truthyText?]

theorem readsFalse (alike : pattern.ReadsAlike first second) (name : String) :
    pattern.readsFalse name second = pattern.readsFalse name first := by
  rw [readsFalse_eq, readsFalse_eq, alike.values]

theorem setText (alike : pattern.ReadsAlike first second) (name : String) (element : α)
    (set : α → String → Except Error α) :
    pattern.setText name second element set = pattern.setText name first element set := by
  rw [setText_eq, setText_eq, alike.truthyText?]

theorem height? (alike : pattern.ReadsAlike first second) :
    pattern.height? second = pattern.height? first := by
  rw [height?_eq, height?_eq, alike.truthyText?]

/-- A property counts as set at both places or at neither, and it has the same text. -/
theorem truthy?_cases (alike : pattern.ReadsAlike first second) (name : String) :
    (pattern.truthy? name second = none ∧ pattern.truthy? name first = none) ∨
      ∃ other value, pattern.truthy? name second = some other ∧
        pattern.truthy? name first = some value ∧ other.toText = value.toText := by
  have texts := alike.truthyText? name
  unfold Pattern.truthyText? at texts
  cases read : pattern.truthy? name first with
  | none =>
      rw [read, Option.map_none, Option.map_eq_none_iff] at texts
      exact Or.inl ⟨texts, rfl⟩
  | some value =>
      rw [read] at texts
      obtain ⟨other, readToo, same⟩ := Option.map_eq_some_iff.1 texts
      exact Or.inr ⟨other, value, readToo, rfl, same⟩

/-- What needs a property goes on alike if it looks at the text of the property only. -/
theorem require_bind (alike : pattern.ReadsAlike first second) (rule name : String)
    {next : PropertyValue → Except Error α}
    (goesOn : ∀ value other, other.toText = value.toText → next other = next value) :
    (pattern.require rule name second >>= next) = (pattern.require rule name first >>= next) := by
  rw [require, require, alike.label]
  obtain ⟨missing, missingToo⟩ | ⟨other, value, read, readToo, same⟩ := alike.truthy?_cases name
  · rw [missing, missingToo]
  · rw [read, readToo]
    exact goesOn value other same

theorem describeArticle (alike : pattern.ReadsAlike first second) (article : Article) :
    pattern.describeArticle article second = pattern.describeArticle article first := by
  unfold Pattern.describeArticle
  simp only [alike.setText, alike.readsFalse]
  refine alike.require_bind _ _ fun value other same => ?_
  rw [same]

theorem sizeInteractive (alike : pattern.ReadsAlike first second) (interactive : Interactive) :
    pattern.sizeInteractive second interactive = pattern.sizeInteractive first interactive := by
  simp only [Pattern.sizeInteractive, alike.isTruthy, alike.height?]

theorem truthy?_iframe (alike : pattern.ReadsAlike first second) :
    pattern.truthy? PropertyName.iframe second = none ∧
      pattern.truthy? PropertyName.iframe first = none := by
  have noMarkupToo := alike.values PropertyName.iframe
  rw [alike.noMarkup, Option.map_none, Option.map_eq_none_iff] at noMarkupToo
  rw [truthy?, truthy?, noMarkupToo, alike.noMarkup]
  exact ⟨rfl, rfl⟩

/-- Without markup there is only an address to build from. -/
theorem buildInteractive (alike : pattern.ReadsAlike first second) :
    pattern.buildInteractive second = pattern.buildInteractive first := by
  obtain ⟨unframed, unframedToo⟩ := alike.truthy?_iframe
  rw [buildInteractive_eq, buildInteractive_eq, unframed, unframedToo, alike.label,
    funext alike.sizeInteractive]
  obtain ⟨missing, missingToo⟩ | ⟨other, value, read, readToo, same⟩ :=
    alike.truthy?_cases PropertyName.url
  · rw [missing, missingToo]
  · simp only [read, readToo, same]

theorem buildVideo (alike : pattern.ReadsAlike first second) :
    pattern.buildVideo second = pattern.buildVideo first := by
  unfold Pattern.buildVideo
  simp only [alike.setText, alike.readsFalse, alike.isTruthy]
  refine alike.require_bind _ _ fun value other same => ?_
  rw [same]

theorem buildCaption (alike : pattern.ReadsAlike first second) :
    pattern.buildCaption second = pattern.buildCaption first := by
  have title (place : Place) : pattern.buildCaption place = (do
      let caption ← Caption.setTitle {}
        ((pattern.truthyText? PropertyName.captionTitle place).getD place.textContent)
      pattern.setText PropertyName.captionCredit place caption Caption.setCredit) := by
    rw [Pattern.buildCaption, Pattern.truthyText?]
    cases pattern.truthy? PropertyName.captionTitle place <;> rfl
  simp only [title, alike.truthyText?, alike.text, alike.setText]

end ReadsAlike

end ReadsAlike

/-- The properties of the pattern look at content only, and none of them is embedded as markup. -/
def ReadsContent (pattern : Pattern) : Prop :=
  ∀ property ∈ pattern.properties, property.ReadsContent ∧ property.name ≠ PropertyName.iframe

/-- A remaining place reads the same with and without remarks in the tree. -/
theorem ReadsContent.readsAlike {pattern : Pattern} (reads : pattern.ReadsContent) {tree : Node}
    {place : Place} (remains : Place.Remains tree place) :
    pattern.ReadsAlike place place.withoutRemarks := by
  constructor
  case label => exact place.node.describe_withoutRemarks
  case text => exact place.textContent_withoutRemarks
  case values =>
      intro name
      rw [value?, value?]
      cases defined : pattern.properties.find? (·.name == name) with
      | none => rfl
      | some property =>
          have content := (reads property (List.mem_of_find?_eq_some defined)).1
          exact content.skipsRemarks _ _ tree place remains
  case noMarkup =>
      have undefined : pattern.properties.find? (·.name == PropertyName.iframe) = none := by
        rw [List.find?_eq_none]
        intro property member named
        exact (reads property member).2 (eq_of_beq named)
      rw [value?, undefined]
      rfl

end Pattern

namespace Rule

/-- The pattern of a rule of the library. -/
def pattern? : Rule → Option Pattern
  | metadata pattern | header pattern | headerTitle pattern | headerKicker pattern => some pattern
  | interactive pattern | video pattern => some pattern
  | caption pattern _ | passThrough pattern _ | ignore pattern _ => some pattern
  | host _ => none

/-- The properties of the rule look at content only, and none of them is embedded as markup. -/
def ReadsContent (rule : Rule) : Prop :=
  ∀ pattern ∈ rule.pattern?, pattern.ReadsContent

/-- At places that read alike a rule of the library makes the same plan. -/
theorem plan_of_readsAlike {rule : Rule} {first second : Place} (builtIn : rule.isBuiltIn = true)
    (alike : ∀ pattern ∈ rule.pattern?, pattern.ReadsAlike first second) (context : Element) :
    rule.plan context second = rule.plan context first := by
  cases rule with
  | metadata pattern => simp only [plan, (alike pattern rfl).describeArticle]
  | headerTitle pattern | headerKicker pattern => simp only [plan, (alike pattern rfl).text]
  | interactive pattern =>
      simp only [plan, (alike pattern rfl).buildInteractive, (alike pattern rfl).isTruthy]
  | video pattern => simp only [plan, (alike pattern rfl).buildVideo, (alike pattern rfl).isTruthy]
  | caption pattern kind => simp only [plan, (alike pattern rfl).buildCaption]
  | header pattern | passThrough pattern kind | ignore pattern kind => rfl
  | host rule => cases builtIn

section Remains

variable {tree : Node} {place : Place}

theorem findMatch_withoutRemarks (remains : Place.Remains tree place) (rules : List Rule)
    (kind : Kind) : findMatch rules kind place.withoutRemarks = findMatch rules kind place := by
  have matching : ∀ rule : Rule, rule.matchesAt kind place.withoutRemarks = rule.matchesAt kind place := by
    intro rule
    rw [matchesAt, matchesAt, Selector.matchesAt_withoutRemarks remains]
  simp only [findMatch, matching]

end Remains

end Rule

/-- The rule that answers for a remaining place answers for its counterpart, with the same plan. -/
theorem Responds.withoutRemarks {tree : Node} {place : Place} {rules : List Rule} {context : Element}
    {rule : Rule} {planned : Except Error Plan} (builtIn : Rule.AllBuiltIn rules)
    (reads : ∀ rule ∈ rules, rule.ReadsContent) (remains : Place.Remains tree place)
    (response : Responds rules context place rule planned) :
    Responds rules context place.withoutRemarks rule planned := by
  constructor
  case visible => exact place.node.isSkippable_withoutRemarks.trans response.visible
  case matched => exact (Rule.findMatch_withoutRemarks remains rules _).trans response.matched
  case plans =>
      rw [← response.plans]
      refine Rule.plan_of_readsAlike (builtIn rule response.mem) (fun pattern ofRule => ?_) context
      exact (reads rule response.mem pattern ofRule).readsAlike remains

end ArticleRules
