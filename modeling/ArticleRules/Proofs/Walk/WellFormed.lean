import ArticleRules.Proofs.Element.Operations
import ArticleRules.Proofs.Rule.WellFormed
import ArticleRules.Proofs.Walk.Limit

/-
This file shows that every element that can be obtained is well formed. Elements come from blank ones through
the operations on elements, from walks, and from the warnings that walks leave behind.
-/

namespace ArticleRules

section Visits

variable {rules : List Rule} {limit depth : Nat} {places : List Place} {context : Element}
  {warnings : List Warning} {result : Except Error Element}

/-- Visits over rules of the library end with a well-formed context, if they started with one. -/
theorem Visits.wellFormed (builtIn : Rule.AllBuiltIn rules)
    (visits : Visits rules limit depth places context warnings result)
    (wellFormed : context.WellFormed) : Ensures Element.WellFormed result := by
  induction visits with
  | finished => exact .pure wellFormed
  | skipped skippable later ih | reported visible unmatched later ih => exact ih wellFormed
  | changed response later ih => exact ih (response.wellFormed_done wellFormed)
  | completed response room below finishes later ihBelow ihLater =>
      have inner := response.wellFormed_inner wellFormed
      have completed := ihBelow inner _ rfl
      exact ihLater (response.wellFormed_finished wellFormed completed finishes)
  | refused | cut | failedBelow | refusedAfter => exact .throw _
  | hostFailed response | hostEnded response => exact (response.not_hosted builtIn).elim

/-- The contexts that they report are well formed, also if the visits fail later. -/
theorem Visits.wellFormed_warnings (builtIn : Rule.AllBuiltIn rules)
    (visits : Visits rules limit depth places context warnings result)
    (wellFormed : context.WellFormed) : ∀ warning ∈ warnings, warning.context.WellFormed := by
  intro warning member
  induction visits with
  | finished | refused | cut => cases member
  | skipped skippable later ih => exact ih wellFormed member
  | reported visible unmatched later ih =>
      rcases List.mem_cons.1 member with rfl | member
      · exact wellFormed
      · exact ih wellFormed member
  | changed response later ih => exact ih (response.wellFormed_done wellFormed) member
  | failedBelow response room below ih | refusedAfter response room below refusal ih =>
      exact ih (response.wellFormed_inner wellFormed) member
  | completed response room below finishes later ihBelow ihLater =>
      have inner := response.wellFormed_inner wellFormed
      rcases List.mem_append.1 member with inside | after
      · exact ihBelow inner inside
      · have completed := below.wellFormed builtIn inner _ rfl
        exact ihLater (response.wellFormed_finished wellFormed completed finishes) after
  | hostFailed response | hostEnded response => exact (response.not_hosted builtIn).elim

theorem Walks.wellFormed {place : Place} (builtIn : Rule.AllBuiltIn rules)
    (walks : Walks rules limit depth place context warnings result) (wellFormed : context.WellFormed) :
    Ensures Element.WellFormed result ∧ ∀ warning ∈ warnings, warning.context.WellFormed := by
  cases walks with
  | cut deep => exact ⟨.throw _, by simp⟩
  | entered room visits =>
      exact ⟨visits.wellFormed builtIn wellFormed, visits.wellFormed_warnings builtIn wellFormed⟩

end Visits

/-- The warnings that a transformation adds can be told from those held before. -/
theorem Converter.record_injective (converter : Converter) :
    Function.Injective converter.record := by
  intro warnings others same
  have held := congrArg Converter.warnings same
  exact List.append_cancel_left held

/-- A transformation over rules of the library gives a well-formed element and adds warnings with well-formed
contexts, if it starts with a well-formed context. -/
theorem Converter.wellFormed_of_transform (converter : Converter) (context : Element) (place : Place)
    (builtIn : Rule.AllBuiltIn converter.rules) (wellFormed : context.WellFormed) :
    Ensures Element.WellFormed (converter.transform context place).1 ∧
      ∃ warnings, (converter.transform context place).2 = converter.record warnings ∧
        ∀ warning ∈ warnings, warning.context.WellFormed := by
  obtain ⟨warnings, result, walks, transforms⟩ := converter.transform_walks context place
  have kept := walks.wellFormed builtIn wellFormed
  rw [transforms]
  exact ⟨kept.1, warnings, rfl, kept.2⟩

/-- The elements that can be obtained from blank ones, by operations on elements and by transformations over
rules of the library. A transformation gives an element, and its warnings give contexts even if it fails. -/
inductive Element.Obtained : Element → Prop where
  | blank (start : Kind) : Obtained (Element.blank start)
  | set (obtained : Obtained element) (sets : Sets element next) : Obtained next
  | converted (obtained : Obtained element) (converts : Converts element next) : Obtained next
  | taken (obtainedPart : Obtained part) (obtained : Obtained element)
      (takes : Takes part element next) : Obtained next
  | transformed {converter : Converter} (builtIn : Rule.AllBuiltIn converter.rules)
      (obtained : Obtained context) (transforms : (converter.transform context place).1 = .ok next) :
      Obtained next
  | reported {converter : Converter} (builtIn : Rule.AllBuiltIn converter.rules)
      (obtained : Obtained context)
      (recorded : (converter.transform context place).2 = converter.record warnings)
      (member : warning ∈ warnings) : Obtained warning.context

theorem Element.Obtained.wellFormed {element : Element} (obtained : element.Obtained) :
    element.WellFormed := by
  induction obtained with
  | blank kind => exact blank_wellFormed kind
  | set obtained sets ih => exact sets.wellFormed ih
  | converted obtained converts ih =>
      rw [converts.eq]
      exact ih
  | taken obtainedPart obtained takes ihPart ih => exact takes.wellFormed ihPart ih
  | transformed builtIn obtained transforms ih =>
      exact (Converter.wellFormed_of_transform _ _ _ builtIn ih).1 _ transforms
  | reported builtIn obtained recorded member ih =>
      obtain ⟨_, others, recordedToo, kept⟩ := Converter.wellFormed_of_transform _ _ _ builtIn ih
      have same := Converter.record_injective _ (recorded.symm.trans recordedToo)
      rw [same] at member
      exact kept _ member

/-- Every element that can be obtained is well formed. So is every element that a transformation over rules of
the library gives back for a well-formed context, and every context that it reports, also if it fails. -/
theorem Converter.transform_wellFormed :
    (∀ element : Element, element.Obtained → element.WellFormed) ∧
    ∀ (converter : Converter) (context : Element) (place : Place),
      Rule.AllBuiltIn converter.rules → context.WellFormed →
        (∀ element, (converter.transform context place).1 = .ok element → element.WellFormed) ∧
        ∃ warnings, (converter.transform context place).2 = converter.record warnings ∧
          ∀ warning ∈ warnings, warning.context.WellFormed := by
  constructor
  · intro element obtained
    exact obtained.wellFormed
  · intro converter context place builtIn wellFormed
    exact converter.wellFormed_of_transform context place builtIn wellFormed

/-- A title is trimmed, and the context of a walk that fails for its depth is reported before it fails. -/
theorem Converter.transform_wellFormed_heading :
    Element.WellFormed (.header { title := some "News" }) ∧
      ((heading.limitedTo 1).transform (.article {}) (.root .textAndBoxes)).1 =
        .error (.depthExceeded 1) ∧
      ∃ warnings,
        ((heading.limitedTo 1).transform (.article {}) (.root .textAndBoxes)).2 =
          (heading.limitedTo 1).record warnings ∧
        warnings.map (·.place.path) = [[0]] ∧ ∀ warning ∈ warnings, warning.context.WellFormed := by
  have set : Header.setTitle {} " News " = .ok { title := some "News" } := rfl
  have obtained := Element.Obtained.set (.blank .header) (.headerTitle set)
  have walks := transform_wellFormed.2 (heading.limitedTo 1) (.article {}) (.root .textAndBoxes)
    heading_builtIn Article.blank_wellFormed
  obtain ⟨_, warnings, recorded, kept⟩ := walks
  have paths := congrArg (fun converter => converter.warnings.map (·.place.path)) recorded
  exact ⟨transform_wellFormed.1 _ obtained, rfl, warnings, recorded, paths.symm, kept⟩

end ArticleRules
