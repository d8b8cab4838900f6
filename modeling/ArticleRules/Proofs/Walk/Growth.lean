import ArticleRules.Proofs.Rule.Growth
import ArticleRules.Proofs.Walk.Reach
import ArticleRules.Proofs.Walk.Uniform

/-
This file shows that an article only grows in a walk. What the warnings remember of it are the states between
the first and the last one, and there are enough nodes for all that is added or reported.
-/

namespace ArticleRules

/-- The states of an article in the course of a walk: at first, in the warnings, and as it comes back. -/
def Article.course (article : Article) (warnings : List Warning) (result : Except Error Element) :
    List Article :=
  article :: (warnings.filterMap (·.context.article?) ++ (result.toOption.bind Element.article?).toList)

/-- An article that comes back is the last state. -/
theorem Article.course_ok (article last : Article) (warnings : List Warning) :
    article.course warnings (.ok (.article last)) =
      (article :: warnings.filterMap (·.context.article?)) ++ [last] := rfl

namespace Article.GrowsInto

/-- A course goes on to grow from any article that grows into its first one. -/
theorem pairwise_cons {earlier article : Article} {later : List Article}
    (grows : earlier.GrowsInto article) (course : (article :: later).Pairwise GrowsInto) :
    (earlier :: later).Pairwise GrowsInto := by
  obtain ⟨first, rest⟩ := List.pairwise_cons.1 course
  refine List.pairwise_cons.2 ⟨fun next member => ?_, rest⟩
  exact grows.trans (first next member)

/-- Two courses that meet in an article make one course. -/
theorem pairwise_append {before after : List Article} {middle : Article}
    (first : (before ++ [middle]).Pairwise GrowsInto) (second : (middle :: after).Pairwise GrowsInto) :
    (before ++ after).Pairwise GrowsInto := by
  obtain ⟨beforeGrows, _, toMiddle⟩ := List.pairwise_append.1 first
  obtain ⟨fromMiddle, afterGrows⟩ := List.pairwise_cons.1 second
  refine List.pairwise_append.2 ⟨beforeGrows, afterGrows, fun earlier member later memberLater => ?_⟩
  have reaches := toMiddle earlier member middle (List.mem_singleton.2 rfl)
  exact reaches.trans (fromMiddle later memberLater)

end Article.GrowsInto

section Visits

variable {rules : List Rule} {limit depth : Nat} {places : List Place} {context element : Element}
  {article : Article} {warnings : List Warning} {result : Except Error Element}

/-- Visits over rules of the library that succeed edit the context. -/
theorem Visits.exists_edit (builtIn : Rule.AllBuiltIn rules)
    (visits : Visits rules limit depth places context warnings (.ok element)) :
    ∃ edit : Edit, element = edit.apply context := by
  have alike : VisitsAlike rules limit depth places context.kind :=
    .of_below builtIn fun place _ => VisitsAlike.children builtIn limit place
  obtain ⟨outcome, reported, runs⟩ := alike
  obtain ⟨others, sameVisits, _⟩ := runs context rfl
  obtain ⟨_, same⟩ := visits.unique sameVisits
  cases outcome with
  | error error => cases same
  | ok edit =>
      cases same
      exact ⟨edit, rfl⟩

/-- Visits in a context of another kind never remember the article. -/
theorem Visits.articles_eq_nil (builtIn : Rule.AllBuiltIn rules)
    (visits : Visits rules limit depth places context warnings result)
    (other : context.kind ≠ .article) : warnings.filterMap (·.context.article?) = [] := by
  refine List.filterMap_eq_nil_iff.2 fun warning member => Element.article?_eq_none ?_
  have reached := visits.warnings_in_reach builtIn warning member
  -- From all kinds but that of articles a walk comes to the same kind only.
  cases kind : context.kind with
  | article => exact absurd kind other
  | header | interactive | video | caption =>
      rw [kind, Kind.reach, List.mem_singleton] at reached
      rw [reached]
      exact Kind.noConfusion

/-- The article grows along the course of visits over rules of the library. -/
theorem Visits.course_growsInto (builtIn : Rule.AllBuiltIn rules)
    (visits : Visits rules limit depth places context warnings result)
    (start : context = .article article) :
    (article.course warnings result).Pairwise Article.GrowsInto := by
  induction visits generalizing article with
  | finished =>
      subst start
      rw [Article.course_ok]
      simpa using Article.GrowsInto.refl article
  | skipped skippable later ih => exact ih start
  | reported visible unmatched later ih =>
      subst start
      -- The warning remembers the article as it is, so this state comes twice.
      have course := ih rfl
      have first := (List.pairwise_cons.1 course).1
      refine List.pairwise_cons.2 ⟨fun next member => ?_, course⟩
      rcases List.mem_cons.1 member with rfl | member
      · exact .refl next
      · exact first next member
  | refused | cut => exact List.pairwise_singleton _ _
  | changed response later ih =>
      subst start
      have changes := Rule.acts_of_plan response.plans
      obtain ⟨grown, rfl, grows⟩ := Changes.growsInto changes
      exact grows.pairwise_cons (ih rfl)
  | failedBelow response room below ih =>
      subst start
      have descends := Rule.acts_of_plan response.plans
      obtain ⟨rfl, _⟩ | ⟨other, _⟩ := Descends.growsInto descends
      · exact ih rfl
      · rw [Article.course, below.articles_eq_nil builtIn other]
        exact List.pairwise_singleton _ _
  | refusedAfter response room below refusal ih =>
      subst start
      have descends := Rule.acts_of_plan response.plans
      obtain ⟨rfl, rfl⟩ | ⟨other, _⟩ := Descends.growsInto descends
      · cases refusal
      · rw [Article.course, below.articles_eq_nil builtIn other]
        exact List.pairwise_singleton _ _
  | completed response room below finishes later ihBelow ihLater =>
      subst start
      have descends := Rule.acts_of_plan response.plans
      obtain ⟨rfl, rfl⟩ | ⟨other, goesOn⟩ := Descends.growsInto descends
      · cases finishes
        -- The walk below passed the article on, and the later visits start from what it gave back.
        obtain ⟨middle, rfl⟩ := Element.exists_eq_article (below.kind_eq builtIn rfl)
        have courseBelow := ihBelow rfl
        rw [Article.course_ok] at courseBelow
        have course := Article.GrowsInto.pairwise_append courseBelow (ihLater rfl)
        simpa [Article.course] using course
      · obtain ⟨edit, rfl⟩ := below.exists_edit builtIn
        obtain ⟨grown, rfl, grows⟩ := goesOn edit _ finishes
        have course := grows.pairwise_cons (ihLater rfl)
        simpa [Article.course, below.articles_eq_nil builtIn other] using course
  | hostFailed response | hostEnded response => exact (response.not_hosted builtIn).elim

end Visits

/-- A node that rules are looked up for. -/
def Place.isVisible (place : Place) : Bool :=
  !place.node.isSkippable

/-- The number of visible nodes among the given ones and below them. -/
def visibleCount (places : List Place) : Nat :=
  (places.flatMap fun place => place :: place.descendants).countP Place.isVisible

theorem visibleCount_cons (place : Place) (rest : List Place) :
    visibleCount (place :: rest) =
      (if place.isVisible then 1 else 0) + visibleCount place.children + visibleCount rest := by
  simp only [visibleCount, List.flatMap_cons, List.countP_append, List.countP_cons,
    ← Place.descendants_eq_flatMap]
  omega

theorem visibleCount_cons_visible {place : Place} (visible : place.node.isSkippable = false)
    (rest : List Place) :
    visibleCount (place :: rest) = 1 + visibleCount place.children + visibleCount rest := by
  simp [visibleCount_cons, Place.isVisible, visible]

/-- Every visible node accounts for one report or for one element of the body, but not for both. -/
theorem Visits.bodySize_add_length_le {rules : List Rule} {limit depth : Nat} {places : List Place}
    {context element : Element} {warnings : List Warning} {result : Except Error Element}
    (builtIn : Rule.AllBuiltIn rules)
    (visits : Visits rules limit depth places context warnings result) (ended : result = .ok element) :
    element.bodySize + warnings.length ≤ context.bodySize + visibleCount places := by
  induction visits generalizing element with
  | finished =>
      cases ended
      simp
  | skipped skippable later ih =>
      have bound := ih ended
      rw [visibleCount_cons]
      omega
  | reported visible unmatched later ih =>
      have bound := ih ended
      rw [visibleCount_cons_visible visible, List.length_cons]
      omega
  | changed response later ih =>
      have bound := ih ended
      have changes := Rule.acts_of_plan response.plans
      have added := Changes.bodySize_le changes
      rw [visibleCount_cons_visible response.visible]
      omega
  | completed response room below finishes later ihBelow ihLater =>
      have boundBelow := ihBelow rfl
      have bound := ihLater ended
      have descends := Rule.acts_of_plan response.plans
      have added := Descends.bodySize_le descends finishes
      rw [visibleCount_cons_visible response.visible, List.length_append]
      omega
  | refused | cut | failedBelow | refusedAfter => cases ended
  | hostFailed response | hostEnded response => exact (response.not_hosted builtIn).elim

/-- An article only grows. Over rules of the library, the states of the article in the course of a
transformation grow from each to all later ones: the body is kept, nothing that is set is lost, ads that are
off stay off, and all that is added to the body is complete. If the transformation succeeds, it gives back the
last of these states, and the elements added and the warnings are together no more than the visible nodes below
the start. -/
theorem Converter.transform_growsInto (converter : Converter) (builtIn : Rule.AllBuiltIn converter.rules)
    (article : Article) (place : Place) :
    ∃ warnings, (converter.transform (.article article) place).2 = converter.record warnings ∧
      (article.course warnings (converter.transform (.article article) place).1).Pairwise
        Article.GrowsInto ∧
      ∀ element, (converter.transform (.article article) place).1 = .ok element →
        ∃ grown added, element = .article grown ∧ grown.children = article.children ++ added ∧
          added.length + warnings.length ≤ place.descendants.countP (!·.node.isSkippable) := by
  obtain ⟨warnings, result, walks, transforms⟩ := converter.transform_walks (.article article) place
  rw [transforms]
  refine ⟨warnings, rfl, ?_⟩
  cases walks with
  | cut deep => exact ⟨List.pairwise_singleton _ _, nofun⟩
  | entered room visits =>
      have course := visits.course_growsInto builtIn rfl
      refine ⟨course, ?_⟩
      rintro element rfl
      obtain ⟨grown, rfl⟩ := Element.exists_eq_article (visits.kind_eq builtIn rfl)
      have grows : article.GrowsInto grown := by
        apply (List.pairwise_cons.1 course).1
        exact List.mem_append_right _ (List.mem_singleton.2 rfl)
      obtain ⟨added, body, _⟩ := grows.children
      have bound := visits.bodySize_add_length_le builtIn rfl
      have size : grown.children.length = article.children.length + added.length := by
        rw [body, List.length_append]
      have count : visibleCount place.children = place.descendants.countP (!·.node.isSkippable) := by
        rw [Place.descendants_eq_flatMap]
        rfl
      simp only [Element.bodySize] at bound
      refine ⟨grown, added, rfl, body, ?_⟩
      omega

/-- Every element in an article becomes an interactive element with its text as markup. -/
def Converter.embedding : Converter :=
  { rules := [.interactive ⟨.itself,
      [⟨PropertyName.iframe, ⟨"text", Extraction.text, false⟩, .itself, none⟩]⟩] }

/-- Text that no rule matches, followed by an element with text. -/
def Node.strayAndBox : Node :=
  .document [.text "stray", .element ⟨"", "box", []⟩ [.text "chart"]]

/-- One node is reported, one becomes an element of the body, and the third is not visited. -/
theorem Converter.transform_growsInto_embedding :
    Rule.AllBuiltIn embedding.rules ∧
      (embedding.transform (.article {}) (.root .strayAndBox)).1 =
        .ok (.article { children := [.interactive { html := some "chart", width := some .noMargin }] }) ∧
      ∃ warnings,
        (embedding.transform (.article {}) (.root .strayAndBox)).2 = embedding.record warnings ∧
        warnings.map (·.place.path) = [[0]] ∧
        (Article.course {} warnings (embedding.transform (.article {}) (.root .strayAndBox)).1).Pairwise
          Article.GrowsInto ∧
        (Place.root .strayAndBox).descendants.countP (!·.node.isSkippable) = 3 := by
  have builtIn : Rule.AllBuiltIn embedding.rules := by decide
  obtain ⟨warnings, recorded, course, _⟩ :=
    transform_growsInto embedding builtIn {} (.root .strayAndBox)
  have paths := congrArg (fun converter => converter.warnings.map (·.place.path)) recorded
  exact ⟨builtIn, rfl, warnings, recorded, paths.symm, course, rfl⟩

end ArticleRules
