import ArticleRules.Proofs.Rule.Precedence
import ArticleRules.Proofs.Walk.Kind

/-
This file compares two walks that differ in their rules. If the same rule answers for every node below the
start, the walks are the same, so a rule without a node of its own can go, and rules that share no node can
change places.
-/

namespace ArticleRules

section agree

variable {rules others : List Rule} {limit depth : Nat} {context : Element} {warnings : List Warning}
  {result : Except Error Element}

theorem Responds.with_rules {place : Place} {rule : Rule} {planned : Except Error Plan}
    (agree : Rule.AgreeAt rules others place) (response : Responds rules context place rule planned) :
    Responds others context place rule planned :=
  ⟨response.visible, (agree context.kind).symm.trans response.matched, response.plans⟩

/-- Where hosts start walks, the rules agree if they do so everywhere. -/
theorem Responds.agree_of_walk {place : Place} {rule : Rule} {routine : Routine} {walks : List HostWalk}
    {ended : Except Error Element}
    (response : Responds rules context place rule (.ok (.hosted routine)))
    (runs : routine.Runs walks ended)
    (reach : Rule.HostsStay rules ∨ ∀ place, Rule.AgreeAt rules others place) :
    ∀ walk ∈ walks, Rule.AgreeFrom rules others walk.place.children := by
  intro walk started
  obtain stay | everywhere := reach
  · rw [response.eq_nil_of_stay stay runs] at started
    cases started
  · exact .of_everywhere everywhere _

/-- Visits have the same course with other rules that agree at the places and below them, and also
everywhere else if hosts start walks. -/
theorem Visits.with_rules {places : List Place} (agree : Rule.AgreeFrom rules others places)
    (reach : Rule.HostsStay rules ∨ ∀ place, Rule.AgreeAt rules others place)
    (visits : Visits rules limit depth places context warnings result) :
    Visits others limit depth places context warnings result := by
  induction visits with
  | finished => exact .finished
  | skipped skippable later ih => exact .skipped skippable (ih agree.tail)
  | reported visible unmatched later ih =>
      exact .reported visible ((agree.head _).symm.trans unmatched) (ih agree.tail)
  | refused response => exact .refused (response.with_rules agree.head)
  | changed response later ih => exact .changed (response.with_rules agree.head) (ih agree.tail)
  | cut response deep => exact .cut (response.with_rules agree.head) deep
  | failedBelow response room below ih =>
      exact .failedBelow (response.with_rules agree.head) room (ih agree.inside)
  | refusedAfter response room below refusal ih =>
      exact .refusedAfter (response.with_rules agree.head) room (ih agree.inside) refusal
  | completed response room below finishes later ihBelow ihLater =>
      exact .completed (response.with_rules agree.head) room (ihBelow agree.inside) finishes
        (ihLater agree.tail)
  | hostFailed response runs cut below ih =>
      have agreeWalks := response.agree_of_walk runs reach
      exact .hostFailed (response.with_rules agree.head) runs cut
        fun room walk started => ih room walk started (agreeWalks walk started)
  | hostEnded response runs cut below later ihBelow ihLater =>
      have agreeWalks := response.agree_of_walk runs reach
      exact .hostEnded (response.with_rules agree.head) runs cut
        (fun room walk started => ihBelow room walk started (agreeWalks walk started)) (ihLater agree.tail)

theorem Walks.with_rules {place : Place}
    (agree : ∀ below ∈ place.descendants, Rule.AgreeAt rules others below)
    (reach : Rule.HostsStay rules ∨ ∀ place, Rule.AgreeAt rules others place)
    (walks : Walks rules limit depth place context warnings result) :
    Walks others limit depth place context warnings result := by
  cases walks with
  | cut deep => exact .cut deep
  | entered room visits => exact .entered room (visits.with_rules (.of_descendants agree) reach)

end agree

namespace Converter

/-- A converter in the same state with the same limit, but with other rules. -/
def withRules (converter : Converter) (rules : List Rule) : Converter :=
  { converter with rules }

/-- Rules that agree everywhere below a place transform it alike, if their hosts start no walks or the rules
agree at all places. -/
theorem endAlike_of_agree {rules others : List Rule} {place : Place}
    (agree : ∀ below ∈ place.descendants, Rule.AgreeAt rules others below)
    (reach : Rule.HostsStay rules ∨ ∀ place, Rule.AgreeAt rules others place) (converter : Converter)
    (context : Element) :
    EndAlike ((converter.withRules rules).transform context place)
      ((converter.withRules others).transform context place) := by
  obtain ⟨warnings, result, walks⟩ :=
    Walks.exists rules converter.maxDepth converter.state.depth place context
  exact endAlike_of_walks (converter.withRules rules) (converter.withRules others) rfl walks
    (walks.with_rules agree reach)

/-- Only the newest rule that matches counts. A rule can be left out if everywhere below the start, and in
contexts of all kinds, a later rule matches where it does, and two neighbours can change places if they never
both match there, if no host walks on from its node to places elsewhere. A rule of the same kind and selector
as a later one never answers for a node, and it can be left out for all contexts, all starts and all hosts. -/
theorem transform_newestMatch (converter : Converter) (before after : List Rule) :
    (∀ rule place, Rule.HostsStay (before ++ rule :: after) → rule.CoveredBelow after place → ∀ context,
      EndAlike ((converter.withRules (before ++ rule :: after)).transform context place)
        ((converter.withRules (before ++ after)).transform context place)) ∧
    (∀ first second place, Rule.HostsStay (before ++ first :: second :: after) →
      first.ApartBelow second place → ∀ context,
      EndAlike ((converter.withRules (before ++ first :: second :: after)).transform context place)
        ((converter.withRules (before ++ second :: first :: after)).transform context place)) ∧
    ∀ rule, ∀ later ∈ after, later.context = rule.context → later.selector = rule.selector →
      (∀ kind below, Rule.findMatch (before ++ rule :: after) kind below =
        Rule.findMatch (before ++ after) kind below) ∧
      ∀ context place,
        EndAlike ((converter.withRules (before ++ rule :: after)).transform context place)
          ((converter.withRules (before ++ after)).transform context place) := by
  refine ⟨?_, ?_, ?_⟩
  · intro rule place stay covered context
    refine endAlike_of_agree (fun below lower kind => ?_) (.inl stay) converter context
    exact Rule.findMatch_covered (covered kind below lower) before
  · intro first second place stay apart context
    refine endAlike_of_agree (fun below lower kind => ?_) (.inl stay) converter context
    exact Rule.findMatch_swap (apart kind below lower) before after
  · intro rule later member sameContext sameSelector
    have agree kind below : Rule.findMatch (before ++ rule :: after) kind below =
        Rule.findMatch (before ++ after) kind below := by
      refine Rule.findMatch_covered (fun matching => ⟨later, member, ?_⟩) before
      rw [Rule.matchesAt_congr sameContext sameSelector, matching]
    exact ⟨agree, fun context place =>
      endAlike_of_agree (fun below _ kind => agree kind below)
        (.inr fun below kind => agree kind below) converter context⟩

/-- A rule for headers has no node of its own before a rule that ignores everything in articles, and shares
none with a rule that ignores everything in headers. -/
theorem transform_newestMatch_heading :
    Rule.HostsStay [.header ⟨.itself, []⟩, .ignore ⟨.itself, []⟩ .article] ∧
      Rule.HostsStay [.header ⟨.itself, []⟩, .ignore ⟨.itself, []⟩ .header] ∧
      (Rule.header ⟨.itself, []⟩).CoveredBelow [.ignore ⟨.itself, []⟩ .article] (.root .boxes) ∧
      (Rule.header ⟨.itself, []⟩).ApartBelow (.ignore ⟨.itself, []⟩ .header) (.root .boxes) ∧
      ((heading.withRules [.header ⟨.itself, []⟩, .ignore ⟨.itself, []⟩ .article]).transform
        (.article {}) (.root .boxes)).1 = .ok (.article {}) ∧
      EndAlike
        ((heading.withRules [.header ⟨.itself, []⟩, .ignore ⟨.itself, []⟩ .article]).transform
          (.article {}) (.root .boxes))
        ((heading.withRules [.ignore ⟨.itself, []⟩ .article]).transform (.article {}) (.root .boxes)) ∧
      EndAlike
        ((heading.withRules [.header ⟨.itself, []⟩, .ignore ⟨.itself, []⟩ .header]).transform
          (.article {}) (.root .boxes))
        ((heading.withRules [.ignore ⟨.itself, []⟩ .header, .header ⟨.itself, []⟩]).transform
          (.article {}) (.root .boxes)) := by
  have stay (kind : Kind) : Rule.HostsStay [.header ⟨.itself, []⟩, .ignore ⟨.itself, []⟩ kind] :=
    Rule.AllBuiltIn.hostsStay (List.forall_mem_cons.2 ⟨rfl, List.forall_mem_singleton.2 rfl⟩)
  have covered : (Rule.header ⟨.itself, []⟩).CoveredBelow [.ignore ⟨.itself, []⟩ .article]
      (.root .boxes) := by
    intro kind below lower matching
    exact ⟨_, List.mem_singleton_self _, matching⟩
  have apart : (Rule.header ⟨.itself, []⟩).ApartBelow (.ignore ⟨.itself, []⟩ .header)
      (.root .boxes) := by
    rintro kind below lower ⟨matchesFirst, matchesSecond⟩
    cases kind with
    | header => cases matchesFirst
    | article | interactive | video | caption => cases matchesSecond
  have dead := (transform_newestMatch heading [] [.ignore ⟨.itself, []⟩ .article]).1
  have free := (transform_newestMatch heading [] []).2.1
  exact ⟨stay .article, stay .header, covered, apart, rfl, dead _ _ (stay .article) covered _,
    free _ _ _ (stay .header) apart _⟩

end Converter

end ArticleRules
