import ArticleRules.Proofs.Walk.Kind

/-
This file compares two walks that differ in their limit. The larger limit makes no difference unless the
smaller one cuts its walk short, and then that walk has reported a first part of what the other reports.
-/

namespace ArticleRules

/-- Visits that are cut short by their limit, where the same visits with a larger limit go on. -/
structure CutShort (rules : List Rule) (limit larger depth : Nat) (places : List Place)
    (context : Element) (warnings : List Warning) (result : Except Error Element) : Prop where
  exceeded : result = .error (.depthExceeded limit)
  goesOn : ∃ others other, Visits rules larger depth places context others other ∧ warnings <+: others

section Visits

variable {rules : List Rule} {limit larger depth : Nat} {context : Element} {warnings : List Warning}
  {result : Except Error Element}

/-- Visits that come before the cut, or contain it, are cut short by it. -/
theorem CutShort.after {outerDepth : Nat} {places outerPlaces : List Place} {outer : Element}
    (before : List Warning) (cut : CutShort rules limit larger depth places context warnings result)
    (goOn : ∀ {others other}, Visits rules larger depth places context others other →
      Visits rules larger outerDepth outerPlaces outer (before ++ others) other) :
    CutShort rules limit larger outerDepth outerPlaces outer (before ++ warnings) result := by
  obtain ⟨exceeded, others, other, visits, starts⟩ := cut
  exact ⟨exceeded, before ++ others, other, goOn visits, (List.prefix_append_right_inj before).2 starts⟩

/-- A cut below the first place is a cut of the visits to it and to the places after it. -/
theorem CutShort.below {place : Place} {rest : List Place} {rule : Rule} {inner : Element}
    {finish : Element → Except Error Element} {error : Error}
    (response : Responds rules context place rule (.ok (.below inner finish))) (room : depth < larger)
    (cut : CutShort rules limit larger (depth + 1) place.children inner warnings (.error error)) :
    CutShort rules limit larger depth (place :: rest) context warnings (.error error) := by
  obtain ⟨exceeded, inside, outcome, visits, starts⟩ := cut
  cases exceeded
  obtain ⟨others, other, visits, startsLonger⟩ :=
    Visits.exists_after_below response room visits (Visits.exists rules larger depth rest)
  exact ⟨rfl, others, other, visits, starts.trans startsLonger⟩

/-- Visits over rules of the library have the same course with a larger limit, unless the smaller one cuts
them short. -/
theorem Visits.with_larger_limit {places : List Place} (builtIn : Rule.AllBuiltIn rules)
    (within : limit ≤ larger)
    (visits : Visits rules limit depth places context warnings result) :
    Visits rules larger depth places context warnings result ∨
      CutShort rules limit larger depth places context warnings result := by
  induction visits with
  | finished => exact Or.inl .finished
  | skipped skippable later ih =>
      exact ih.imp (.skipped skippable) (.after [] · (.skipped skippable))
  | reported visible unmatched later ih =>
      exact ih.imp (.reported visible unmatched) (.after [_] · (.reported visible unmatched))
  | refused response => exact Or.inl (.refused response)
  | changed response later ih => exact ih.imp (.changed response) (.after [] · (.changed response))
  | cut response deep =>
      obtain ⟨others, other, visits⟩ := Visits.exists rules larger _ _ _
      exact Or.inr ⟨rfl, others, other, visits, List.nil_prefix⟩
  | failedBelow response room below ih =>
      have room := Nat.lt_of_lt_of_le room within
      exact ih.imp (.failedBelow response room) (.below response room)
  | refusedAfter response room below refusal ih =>
      -- What came back from below was not cut short, so the larger limit brings back the same.
      obtain same | cut := ih
      · exact Or.inl (.refusedAfter response (Nat.lt_of_lt_of_le room within) same refusal)
      · cases cut.exceeded
  | completed response room below finishes later ihBelow ihLater =>
      obtain same | cut := ihBelow
      · have room := Nat.lt_of_lt_of_le room within
        exact ihLater.imp (.completed response room same finishes)
          (.after _ · (.completed response room same finishes))
      · cases cut.exceeded
  | hostFailed response | hostEnded response => exact (response.not_hosted builtIn).elim

theorem Walks.with_larger_limit {place : Place} (builtIn : Rule.AllBuiltIn rules) (within : limit ≤ larger)
    (walks : Walks rules limit depth place context warnings result) :
    Walks rules larger depth place context warnings result ∨
      result = .error (.depthExceeded limit) ∧
        ∃ others other, Walks rules larger depth place context others other ∧ warnings <+: others := by
  cases walks with
  | cut deep =>
      obtain ⟨others, other, walks⟩ := Walks.exists rules larger depth place context
      exact Or.inr ⟨rfl, others, other, walks, List.nil_prefix⟩
  | entered room visits =>
      have room := Nat.lt_of_lt_of_le room within
      obtain same | ⟨exceeded, others, other, visits, starts⟩ := visits.with_larger_limit builtIn within
      · exact Or.inl (.entered room same)
      · exact Or.inr ⟨exceeded, others, other, .entered room visits, starts⟩

/-- A walk over rules of the library that fails for its depth names its limit. -/
theorem Walks.exceeded_eq {place : Place} {exceeded : Nat} (builtIn : Rule.AllBuiltIn rules)
    (walks : Walks rules limit depth place context warnings (.error (.depthExceeded exceeded))) :
    exceeded = limit := by
  obtain flaw | same | ⟨_, _, _, _, _, mismatch⟩ := walks.error_cases builtIn
  · cases flaw
  · cases same
    rfl
  · cases mismatch

end Visits

namespace Converter

/-- A converter in the same state with the same rules, but with another limit. -/
def limitedTo (converter : Converter) (limit : Nat) : Converter :=
  { converter with maxDepth := limit }

/-- The limit only cuts a transformation short. If a transformation over rules of the library does not fail
for its depth, a larger limit gives the same element or the same error, and the same warnings are added. If
it does, it names its limit, and the warnings that it added are the first ones with any larger limit. -/
theorem transform_limitedTo (converter : Converter) (builtIn : Rule.AllBuiltIn converter.rules)
    {limit larger : Nat} (within : limit ≤ larger) (context : Element) (place : Place) :
    ∃ warnings others,
      ((converter.limitedTo limit).transform context place).2 =
        (converter.limitedTo limit).record warnings ∧
      ((converter.limitedTo larger).transform context place).2 =
        (converter.limitedTo larger).record others ∧
      ((∀ exceeded,
          ((converter.limitedTo limit).transform context place).1 ≠ .error (.depthExceeded exceeded)) →
        ((converter.limitedTo larger).transform context place).1 =
          ((converter.limitedTo limit).transform context place).1 ∧ others = warnings) ∧
      ∀ exceeded,
        ((converter.limitedTo limit).transform context place).1 = .error (.depthExceeded exceeded) →
          exceeded = limit ∧ warnings <+: others := by
  obtain ⟨warnings, result, walks, transforms⟩ :=
    (converter.limitedTo limit).transform_walks context place
  rw [transforms]
  have namesLimit : ∀ exceeded, result = .error (.depthExceeded exceeded) → exceeded = limit := by
    rintro exceeded rfl
    exact walks.exceeded_eq builtIn
  obtain same | ⟨cut, others, other, walksOn, starts⟩ := walks.with_larger_limit builtIn within
  · have transformsOn : (converter.limitedTo larger).transform context place = (result, _) :=
      transform_eq_of_walks same
    rw [transformsOn]
    refine ⟨warnings, warnings, rfl, rfl, fun _ => ⟨rfl, rfl⟩, fun exceeded failed => ?_⟩
    exact ⟨namesLimit exceeded failed, List.prefix_rfl⟩
  · have transformsOn : (converter.limitedTo larger).transform context place = (other, _) :=
      transform_eq_of_walks walksOn
    rw [transformsOn]
    refine ⟨warnings, others, rfl, rfl, fun passed => absurd cut (passed limit), ?_⟩
    intro exceeded failed
    exact ⟨namesLimit exceeded failed, starts⟩

end Converter

/-- Text that no rule matches, followed by an element in an element. -/
def Node.textAndBoxes : Node :=
  .document [.text "stray", .element ⟨"", "box", []⟩ [.element ⟨"", "box", []⟩ []]]

/-- A limit of one cuts the walk below the outer element, after the text was reported. -/
theorem Converter.transform_limitedTo_heading :
    Rule.AllBuiltIn heading.rules ∧ 1 ≤ 2 ∧
      ((heading.limitedTo 1).transform (.article {}) (.root .textAndBoxes)).1 =
        .error (.depthExceeded 1) ∧
      ∃ warnings others,
        ((heading.limitedTo 1).transform (.article {}) (.root .textAndBoxes)).2 =
          (heading.limitedTo 1).record warnings ∧
        ((heading.limitedTo 2).transform (.article {}) (.root .textAndBoxes)).2 =
          (heading.limitedTo 2).record others ∧
        warnings <+: others ∧
        warnings.map (·.place.path) = [[0]] ∧ others.map (·.place.path) = [[0], [1, 0]] := by
  have fails : ((heading.limitedTo 1).transform (.article {}) (.root .textAndBoxes)).1 =
      .error (.depthExceeded 1) := rfl
  obtain ⟨warnings, others, recorded, recordedOn, _, cut⟩ :=
    transform_limitedTo heading heading_builtIn (show 1 ≤ 2 by decide) (.article {}) (.root .textAndBoxes)
  have paths := congrArg (fun converter => converter.warnings.map (·.place.path)) recorded
  have pathsOn := congrArg (fun converter => converter.warnings.map (·.place.path)) recordedOn
  exact ⟨heading_builtIn, by decide, fails, warnings, others, recorded, recordedOn,
    (cut 1 fails).2, paths.symm, pathsOn.symm⟩

end ArticleRules
