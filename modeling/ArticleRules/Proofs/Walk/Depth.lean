import ArticleRules.Proofs.Tree.Height
import ArticleRules.Proofs.Walk.Limit

/-
This file bounds the depth of a walk by the height of the node that it starts at. Rules walk on below the
nodes that they match only, so a walk nests no deeper than elements do, and a limit that leaves room for
the height makes no difference. A rule that passes through all elements needs all of that room.
-/

namespace ArticleRules

/-- If hosts start no walks, every use of a rule ends a chain of elements, with one step for each level of the
walk. -/
theorem Applies.exists_chain {rules : List Rule} {limit depth : Nat} {places : List Place}
    {context : Element} {application : Application} (stay : Rule.HostsStay rules)
    (applies : Applies rules limit depth places context application) :
    ∃ first ∈ places, first.isElement = true ∧ ∃ chain, (first :: chain).IsChain Place.LeadsTo ∧
      (first :: chain).getLast? = some application.place ∧
      application.depth = depth + chain.length := by
  induction applies with
  | here visible matched =>
      exact ⟨_, List.mem_cons_self, Rule.isElement_of_findMatch matched, [], List.isChain_singleton _, rfl,
        rfl⟩
  | inside response room applies ih =>
      obtain ⟨first, member, isElement, chain, leads, last, deep⟩ := ih
      refine ⟨_, List.mem_cons_self, response.isElement, first :: chain,
        List.isChain_cons_cons.2 ⟨⟨member, isElement⟩, leads⟩, ?_, ?_⟩
      · rw [List.getLast?_cons_cons, last]
      · rw [deep, List.length_cons]
        omega
  | hosted response room runs below started applies ih =>
      rw [response.eq_nil_of_stay stay runs] at started
      cases started
  | later visit applies ih =>
      obtain ⟨first, member, ends⟩ := ih
      exact ⟨first, List.mem_cons_of_mem _ member, ends⟩

section fits

variable {rules : List Rule} {limit other depth : Nat} {context : Element} {warnings : List Warning}
  {result : Except Error Element}

/-- Visits have the same course with every limit that leaves room for the tallest of the places, if hosts
start no walks. -/
theorem Visits.with_other_limit {places : List Place} (stay : Rule.HostsStay rules)
    (fits : depth + Place.tallest places ≤ limit)
    (fitsOther : depth + Place.tallest places ≤ other)
    (visits : Visits rules limit depth places context warnings result) :
    Visits rules other depth places context warnings result := by
  induction visits with
  | finished => exact .finished
  | skipped skippable later ih =>
      exact .skipped skippable (ih (Place.tallest_fits_tail fits) (Place.tallest_fits_tail fitsOther))
  | reported visible unmatched later ih =>
      exact .reported visible unmatched
        (ih (Place.tallest_fits_tail fits) (Place.tallest_fits_tail fitsOther))
  | refused response => exact .refused response
  | changed response later ih =>
      exact .changed response (ih (Place.tallest_fits_tail fits) (Place.tallest_fits_tail fitsOther))
  | cut response deep =>
      rw [Place.tallest_cons_of_element response.isElement] at fits
      omega
  | failedBelow response room below ih =>
      rw [Place.tallest_cons_of_element response.isElement] at fits fitsOther
      exact .failedBelow response (by omega) (ih (by omega) (by omega))
  | refusedAfter response room below refusal ih =>
      rw [Place.tallest_cons_of_element response.isElement] at fits fitsOther
      exact .refusedAfter response (by omega) (ih (by omega) (by omega)) refusal
  | completed response room below finishes later ihBelow ihLater =>
      rw [Place.tallest_cons_of_element response.isElement] at fits fitsOther
      exact .completed response (by omega) (ihBelow (by omega) (by omega)) finishes
        (ihLater (by omega) (by omega))
  | hostFailed response runs cut below ih =>
      obtain rfl := response.eq_nil_of_stay stay runs
      exact .hostFailed response runs (fun _ => List.forall_mem_nil _) fun _ => List.forall_mem_nil _
  | hostEnded response runs cut below later ihBelow ihLater =>
      obtain rfl := response.eq_nil_of_stay stay runs
      exact .hostEnded response runs (fun _ => List.forall_mem_nil _) (fun _ => List.forall_mem_nil _)
        (ihLater (Place.tallest_fits_tail fits) (Place.tallest_fits_tail fitsOther))

theorem Walks.with_other_limit {place : Place} (stay : Rule.HostsStay rules)
    (fits : depth + place.node.height ≤ limit)
    (fitsOther : depth + place.node.height ≤ other)
    (walks : Walks rules limit depth place context warnings result) :
    Walks rules other depth place context warnings result := by
  rw [place.height_eq] at fits fitsOther
  cases walks with
  | cut deep => omega
  | entered room visits =>
      exact .entered (by omega) (visits.with_other_limit stay (by omega) (by omega))

/-- A walk over rules of the library that has room for the height never fails for its depth. -/
theorem Walks.ne_exceeded {place : Place} (builtIn : Rule.AllBuiltIn rules)
    (fits : depth + place.node.height ≤ limit)
    (walks : Walks rules limit depth place context warnings result) (exceeded : Nat) :
    result ≠ .error (.depthExceeded exceeded) := by
  -- The walk has the same course with the next limit, and the error would have to name both limits.
  rintro rfl
  have first := walks.exceeded_eq builtIn
  have second := (walks.with_other_limit builtIn.hostsStay fits (Nat.le_succ_of_le fits)).exceeded_eq builtIn
  omega

end fits

section passThrough

variable {pattern : Pattern} {kind : Kind} {limit depth : Nat} {places : List Place} {context : Element}
  {warnings : List Warning} {result : Except Error Element}

theorem Node.isElement_of_isSkippable {node : Node} (skippable : node.isSkippable = true) :
    node.isElement = false := by
  cases node with
  | element tag children => cases skippable
  | document | fragment | doctype | comment | text | instruction => rfl

/-- The only rule that can answer walks on below the node in the same context. -/
theorem Responds.eq_passThrough {place : Place} {rule : Rule} {planned : Except Error Plan}
    (response : Responds [.passThrough pattern kind] context place rule planned) :
    planned = .ok (.below context .ok) := by
  obtain rfl := List.mem_singleton.1 response.mem
  exact response.plans.symm

/-- A rule for the node itself matches every element in a context of its kind. -/
theorem Rule.isElement_of_unmatched {place : Place} (itself : pattern.selector = .itself)
    (unmatched : findMatch [.passThrough pattern kind] kind place = none) : place.isElement = false := by
  have differs : (passThrough pattern kind).matchesAt kind place = false := by
    simpa [findMatch] using unmatched
  simpa [matchesAt, Rule.context, Rule.selector, itself, Selector.matchesAt] using differs

/-- Visits that pass through all elements change nothing, and they fail if there is no room for the tallest
of the places. -/
theorem Visits.passThrough_result (itself : pattern.selector = .itself) (same : context.kind = kind)
    (within : depth ≤ limit)
    (visits : Visits [.passThrough pattern kind] limit depth places context warnings result) :
    result =
      if depth + Place.tallest places ≤ limit then .ok context else .error (.depthExceeded limit) := by
  induction visits with
  | finished => exact (if_pos within).symm
  | skipped skippable later ih =>
      rw [Place.tallest_cons_of_other (Node.isElement_of_isSkippable skippable)]
      exact ih same within
  | reported visible unmatched later ih =>
      rw [same] at unmatched
      rw [Place.tallest_cons_of_other (Rule.isElement_of_unmatched itself unmatched)]
      exact ih same within
  | refused response => cases response.eq_passThrough
  | changed response later ih => cases response.eq_passThrough
  | cut response deep =>
      rw [Place.tallest_cons_of_element response.isElement, if_neg (by omega)]
  | failedBelow response room below ih =>
      cases response.eq_passThrough
      have deep := ih same room
      split at deep
      · cases deep
      · cases deep
        rw [Place.tallest_cons_of_element response.isElement, if_neg (by omega)]
  | refusedAfter response room below refusal ih =>
      cases response.eq_passThrough
      cases refusal
  | completed response room below finishes later ihBelow ihLater =>
      cases response.eq_passThrough
      -- The walk below fitted, so the first place decides nothing and the later ones decide all.
      have fits := ihBelow same room
      split at fits
      · cases fits
        cases finishes
        rw [ihLater same within, Place.tallest_cons_of_element response.isElement]
        congr 1
        apply propext
        omega
      · cases fits
  | hostFailed response | hostEnded response => cases response.eq_passThrough

theorem Pattern.read_itself : Pattern.read Selector.itselfName = .ok ⟨.itself, []⟩ := rfl

theorem Walks.passThrough_result {place : Place} (itself : pattern.selector = .itself)
    (same : context.kind = kind)
    (walks : Walks [.passThrough pattern kind] limit depth place context warnings result) :
    result = if depth + place.node.height ≤ limit then .ok context else .error (.depthExceeded limit) := by
  rw [place.height_eq, ← Nat.add_assoc]
  cases walks with
  | cut deep => rw [if_neg (by omega)]
  | entered room visits => exact visits.passThrough_result itself same room

end passThrough

namespace Converter

/-- The height of a node, which is the length of the longest chain down through elements, bounds the depth of
a transformation. With room for the height, a transformation over rules of the library never fails for its
depth. Rules are used at the end of such chains, so their depth stays below the height, and from there on the
limit makes no difference. The bound is exact: a rule that passes through all elements gives the context back
or finds the limit exceeded. -/
theorem transform_height (converter : Converter) (context : Element) (place : Place) :
    IsGreatest {length | ∃ chain, (place.node :: chain).IsChain Node.LeadsTo ∧
      (place.node :: chain).length = length} place.node.height ∧
    (Rule.AllBuiltIn converter.rules →
      converter.state.depth + place.node.height ≤ converter.maxDepth →
        ∀ exceeded, (converter.transform context place).1 ≠ .error (.depthExceeded exceeded)) ∧
    (Rule.HostsStay converter.rules → ∀ application, converter.Makes context place application →
      ∃ chain, (place :: chain).IsChain Place.LeadsTo ∧
        (place :: chain).getLast? = some application.place ∧
        application.depth = converter.state.depth + chain.length ∧
        chain.length < place.node.height) ∧
    (Rule.HostsStay converter.rules → ∀ limit larger,
      converter.state.depth + place.node.height ≤ limit → limit ≤ larger →
      EndAlike ((converter.limitedTo limit).transform context place)
        ((converter.limitedTo larger).transform context place)) ∧
    ∀ pattern, Pattern.read Selector.itselfName = .ok pattern →
      converter.rules = [.passThrough pattern context.kind] →
        (converter.transform context place).1 =
          if converter.state.depth + place.node.height ≤ converter.maxDepth then .ok context
          else .error (.depthExceeded converter.maxDepth) := by
  obtain ⟨warnings, result, walks, transforms⟩ := converter.transform_walks context place
  rw [transforms]
  refine ⟨place.node.isGreatest_height,
    fun builtIn fits exceeded => walks.ne_exceeded builtIn fits exceeded, ?_, ?_, ?_⟩
  · rintro stay application ⟨_, applies⟩
    obtain ⟨first, member, isElement, chain, leads, last, deep⟩ := applies.exists_chain stay
    have fromPlace : (place :: first :: chain).IsChain Place.LeadsTo :=
      List.isChain_cons_cons.2 ⟨⟨member, isElement⟩, leads⟩
    have short := Place.length_le_height fromPlace
    rw [List.length_cons] at short
    refine ⟨first :: chain, fromPlace, by rw [List.getLast?_cons_cons, last], ?_, by omega⟩
    rw [deep, List.length_cons]
    omega
  · intro stay limit larger fits within
    obtain ⟨others, other, walks⟩ :=
      Walks.exists converter.rules limit converter.state.depth place context
    have walksOn := walks.with_other_limit stay fits (fits.trans within)
    exact endAlike_of_walks (converter.limitedTo limit) (converter.limitedTo larger) rfl walks walksOn
  · intro pattern spelled single
    cases Pattern.read_itself.symm.trans spelled
    rw [single] at walks
    exact walks.passThrough_result rfl rfl

/-- Everything is passed through, down to the given depth. -/
def passing (limit : Nat) : Converter :=
  { rules := [.passThrough ⟨.itself, []⟩ .article], maxDepth := limit }

theorem passing_builtIn (limit : Nat) : Rule.AllBuiltIn (passing limit).rules := by
  intro rule member
  rw [List.mem_singleton.1 member]
  rfl

theorem transform_height_boxes :
    Node.boxes.height = 3 ∧ Pattern.read Selector.itselfName = .ok ⟨.itself, []⟩ ∧
      (∀ exceeded, ((passing 3).transform (.article {}) (.root .boxes)).1 ≠
        .error (.depthExceeded exceeded)) ∧
      ((passing 3).transform (.article {}) (.root .boxes)).1 = .ok (.article {}) ∧
      ((passing 2).transform (.article {}) (.root .boxes)).1 = .error (.depthExceeded 2) := by
  have bounded := transform_height (passing 3) (.article {}) (.root .boxes)
  have short := transform_height (passing 2) (.article {}) (.root .boxes)
  refine ⟨rfl, rfl, bounded.2.1 (passing_builtIn 3) (by decide), ?_, ?_⟩
  · exact bounded.2.2.2.2 _ rfl rfl
  · exact short.2.2.2.2 _ rfl rfl

end Converter

end ArticleRules
