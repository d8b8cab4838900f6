import ArticleRules.Proofs.Rule.Action
import ArticleRules.Proofs.Tree.Order
import ArticleRules.Proofs.Walk.Visits

/-
This file describes the warnings of a walk. Each is about a node strictly below the start that the walk came
to through elements, at a depth that counts the steps, and together they follow the document.
-/

namespace ArticleRules

/-- A warning is about the node some steps below a place. Elements lie between them, one for each level. -/
structure Reported (place : Place) (depth limit : Nat) (steps : List Nat) (warning : Warning) : Prop where
  reached : place.descend? steps = some warning.place
  visible : warning.place.node.isSkippable = false
  distance : warning.depth = depth + steps.length
  bounded : warning.depth ≤ limit
  between : ∀ taken, taken <+: steps → taken ≠ [] → taken ≠ steps →
    ∃ passed, place.descend? taken = some passed ∧ passed.isElement = true
  named : warning.nodeName = warning.place.node.name
  printed : warning.markup = warning.place.markup

/-- What is reported below a child is reported below its parent, one step further away. -/
theorem Reported.fromParent {place child : Place} {depth limit : Nat} {steps : List Nat}
    {warning : Warning} (member : child ∈ place.children)
    (reported : Reported child (depth + 1) limit steps warning)
    (through : steps ≠ [] → child.isElement = true) :
    ∃ index, Reported place depth limit (index :: steps) warning := by
  obtain ⟨index, descends⟩ := Place.exists_descend?_of_mem_children member
  refine ⟨index, ?_, reported.visible, ?_, reported.bounded, ?_, reported.named, reported.printed⟩
  · rw [descends, reported.reached]
  · rw [reported.distance, List.length_cons]
    omega
  · intro taken takenFirst some missing
    cases taken with
    | nil => exact absurd rfl some
    | cons other rest =>
        obtain ⟨rfl, restFirst⟩ := List.cons_prefix_cons.1 takenFirst
        have missing : rest ≠ steps := fun equal => missing (by rw [equal])
        rw [descends]
        by_cases started : rest = []
        · subst started
          exact ⟨child, rfl, through missing.symm⟩
        · exact reported.between rest restFirst started missing

/-- A walk reports a place that it visits, or one below an element that it visits. -/
inductive Reports (limit : Nat) : Nat → Place → Warning → Prop where
  | here (visible : place.node.isSkippable = false) (room : depth ≤ limit) :
      Reports limit depth place (.unrecognized context place depth)
  | inside (isElement : place.isElement = true) (member : child ∈ place.children)
      (reports : Reports limit (depth + 1) child warning) : Reports limit depth place warning

/-- The steps to a reported place go through elements, from the place visited on. -/
theorem Reports.exists_steps {limit depth : Nat} {place : Place} {warning : Warning}
    (reports : Reports limit depth place warning) :
    ∃ steps, Reported place depth limit steps warning ∧ (steps ≠ [] → place.isElement = true) := by
  induction reports with
  | here visible room =>
      refine ⟨[], ⟨rfl, visible, rfl, room, ?_, rfl, rfl⟩, fun some => absurd rfl some⟩
      intro taken takenFirst some
      exact absurd (List.prefix_nil.1 takenFirst) some
  | inside isElement member reports ih =>
      obtain ⟨steps, reported, through⟩ := ih
      obtain ⟨index, reported⟩ := reported.fromParent member through
      exact ⟨index :: steps, reported, fun _ => isElement⟩

section Visits

variable {rules : List Rule} {limit depth : Nat} {places : List Place} {context : Element}
  {warnings : List Warning} {result : Except Error Element}

/-- Every warning of visits is about one of the places, or about one below an element among them. -/
theorem Visits.reports (stay : Rule.HostsStay rules) (within : depth ≤ limit)
    (visits : Visits rules limit depth places context warnings result) :
    ∀ warning ∈ warnings, ∃ place ∈ places, Reports limit depth place warning := by
  intro warning member
  induction visits with
  | finished | refused | cut => cases member
  | skipped skippable later ih | changed response later ih =>
      obtain ⟨place, among, reports⟩ := ih within member
      exact ⟨place, List.mem_cons_of_mem _ among, reports⟩
  | reported visible unmatched later ih =>
      obtain rfl | member := List.mem_cons.1 member
      · exact ⟨_, List.mem_cons_self, .here visible within⟩
      · obtain ⟨place, among, reports⟩ := ih within member
        exact ⟨place, List.mem_cons_of_mem _ among, reports⟩
  | failedBelow response room below ih | refusedAfter response room below refusal ih =>
      obtain ⟨child, among, reports⟩ := ih room member
      exact ⟨_, List.mem_cons_self, .inside response.isElement among reports⟩
  | completed response room below finishes later ihBelow ihLater =>
      obtain member | member := List.mem_append.1 member
      · obtain ⟨child, among, reports⟩ := ihBelow room member
        exact ⟨_, List.mem_cons_self, .inside response.isElement among reports⟩
      · obtain ⟨place, among, reports⟩ := ihLater within member
        exact ⟨place, List.mem_cons_of_mem _ among, reports⟩
  | hostFailed response runs cut below ih =>
      obtain rfl := response.eq_nil_of_stay stay runs
      cases member
  | hostEnded response runs cut below later ihBelow ihLater =>
      obtain rfl := response.eq_nil_of_stay stay runs
      obtain ⟨place, among, reports⟩ := ihLater within member
      exact ⟨place, List.mem_cons_of_mem _ among, reports⟩

/-- Visits in document order report in document order, and no report is about a node above another. -/
theorem Visits.pairwise_before (stay : Rule.HostsStay rules) (within : depth ≤ limit)
    (ordered : places.Pairwise Place.Before)
    (visits : Visits rules limit depth places context warnings result) :
    warnings.Pairwise fun earlier later => earlier.place.Before later.place := by
  induction visits with
  | finished | refused | cut => exact .nil
  | skipped skippable later ih | changed response later ih => exact ih within (List.pairwise_cons.1 ordered).2
  | reported visible unmatched later ih =>
      obtain ⟨first, ordered⟩ := List.pairwise_cons.1 ordered
      refine List.pairwise_cons.2 ⟨fun warning member => ?_, ih within ordered⟩
      obtain ⟨place, among, reports⟩ := later.reports stay within warning member
      obtain ⟨steps, reported, _⟩ := reports.exists_steps
      exact (first place among).descend? (Place.descend?_nil _) reported.reached
  | failedBelow response room below ih | refusedAfter response room below refusal ih =>
      exact ih room (Place.children_pairwise_before _)
  | completed response room below finishes later ihBelow ihLater =>
      obtain ⟨first, ordered⟩ := List.pairwise_cons.1 ordered
      -- Reports from below this place come before those of later siblings, because the places do.
      refine List.pairwise_append.2
        ⟨ihBelow room (Place.children_pairwise_before _), ihLater within ordered, ?_⟩
      intro warning member other memberLater
      obtain ⟨child, amongChildren, reportsBelow⟩ := below.reports stay room warning member
      obtain ⟨steps, reportedBelow, through⟩ := reportsBelow.exists_steps
      obtain ⟨index, reportedBelow⟩ := reportedBelow.fromParent amongChildren through
      obtain ⟨place, among, reports⟩ := later.reports stay within other memberLater
      obtain ⟨path, reported, _⟩ := reports.exists_steps
      exact (first place among).descend? reportedBelow.reached reported.reached
  | hostFailed response runs cut below ih =>
      obtain rfl := response.eq_nil_of_stay stay runs
      exact .nil
  | hostEnded response runs cut below later ihBelow ihLater =>
      obtain rfl := response.eq_nil_of_stay stay runs
      exact ihLater within (List.pairwise_cons.1 ordered).2

/-- Visits that succeed report every place with content that is no element. -/
theorem Visits.reports_others {place : Place} {element : Element}
    (visits : Visits rules limit depth places context warnings result) (ended : result = .ok element)
    (member : place ∈ places) (visible : place.node.isSkippable = false)
    (other : place.isElement = false) : ∃ warning ∈ warnings, warning.place = place := by
  induction visits with
  | finished => cases member
  | skipped skippable later ih =>
      obtain rfl | member := List.mem_cons.1 member
      · rw [visible] at skippable
        cases skippable
      · exact ih ended member
  | reported unskipped unmatched later ih =>
      obtain rfl | member := List.mem_cons.1 member
      · exact ⟨_, List.mem_cons_self, rfl⟩
      · obtain ⟨warning, found, same⟩ := ih ended member
        exact ⟨warning, List.mem_cons_of_mem _ found, same⟩
  | changed response later ih =>
      obtain rfl | member := List.mem_cons.1 member
      · rw [response.isElement] at other
        cases other
      · exact ih ended member
  | completed response room below finishes later ihBelow ihLater =>
      obtain rfl | member := List.mem_cons.1 member
      · rw [response.isElement] at other
        cases other
      · obtain ⟨warning, found, same⟩ := ihLater ended member
        exact ⟨warning, List.mem_append_right _ found, same⟩
  | hostEnded response runs cut below later ihBelow ihLater =>
      obtain rfl | member := List.mem_cons.1 member
      · rw [response.isElement] at other
        cases other
      · obtain ⟨warning, found, same⟩ := ihLater ended member
        exact ⟨warning, List.mem_append_right _ found, same⟩
  | refused | cut | failedBelow | refusedAfter | hostFailed => cases ended

end Visits

/-- A transformation adds warnings, whether it fails or not. If hosts start no walks, each is about a node
with content strictly below the start, at the depth of the walk plus the number of steps, reached through
elements within the limit. They are in document order, and none is about a node above another. If the
transformation succeeds, every child of the start with content that is no element is among them. -/
theorem Converter.transform_reports (converter : Converter) (context : Element) (place : Place) :
    ∃ warnings, (converter.transform context place).2 = converter.record warnings ∧
      (Rule.HostsStay converter.rules →
        (∀ warning ∈ warnings, ∃ steps, steps ≠ [] ∧
          Reported place converter.state.depth converter.maxDepth steps warning) ∧
        warnings.Pairwise fun earlier later => earlier.place.path < later.place.path ∧
          ¬ earlier.place.path <+: later.place.path ∧ ¬ later.place.path <+: earlier.place.path) ∧
      ∀ element, (converter.transform context place).1 = .ok element →
        ∀ child ∈ place.children, child.node.isSkippable = false → child.isElement = false →
          ∃ warning ∈ warnings, warning.place = child := by
  obtain ⟨warnings, result, walks, transforms⟩ := converter.transform_walks context place
  rw [transforms]
  refine ⟨warnings, rfl, ?_⟩
  cases walks with
  | cut deep =>
      refine ⟨fun _ => ⟨fun _ member => ?_, .nil⟩, fun _ ended => nomatch ended⟩
      exact (List.not_mem_nil member).elim
  | entered room visits =>
      refine ⟨fun stay => ⟨fun warning member => ?_, ?_⟩, ?_⟩
      · obtain ⟨child, among, reports⟩ := visits.reports stay room warning member
        obtain ⟨steps, reported, through⟩ := reports.exists_steps
        obtain ⟨index, reported⟩ := reported.fromParent among through
        exact ⟨index :: steps, List.cons_ne_nil _ _, reported⟩
      · have ordered := visits.pairwise_before stay room place.children_pairwise_before
        exact ordered.imp fun before => ⟨before.path_lt, before.apart⟩
      · intro element ended child member visible other
        exact visits.reports_others ended member visible other

/-- Text, and an element with text in it. -/
def Node.textAndNote : Node :=
  .document [.text "stray", .element ⟨"", "note", []⟩ [.text "inside"]]

/-- A host stamps all elements in an article and does not look at what is below them. -/
def Converter.stamping : Converter :=
  { rules := [.host ⟨"Stamp", .article, .itself, fun context _ => .ok context⟩] }

theorem Converter.transform_reports_stamping :
    Rule.HostsStay stamping.rules ∧ ∃ warnings,
      (stamping.transform (.article {}) (.root .textAndNote)).2 = stamping.record warnings ∧
      warnings.map (·.place.path) = [[0]] ∧
      ∀ warning ∈ warnings, ∃ steps, steps ≠ [] ∧
        Reported (.root .textAndNote) stamping.state.depth stamping.maxDepth steps warning := by
  have stay : Rule.HostsStay stamping.rules := by
    intro host member context place
    cases List.mem_singleton.1 member
    rfl
  obtain ⟨warnings, recorded, shape, _⟩ :=
    transform_reports stamping (.article {}) (.root .textAndNote)
  have paths := congrArg (fun converter => converter.warnings.map (·.place.path)) recorded
  exact ⟨stay, warnings, recorded, paths.symm, (shape stay).1⟩

end ArticleRules
