import ArticleRules.Proofs.Rule.Dispatch
import ArticleRules.Proofs.Tree.Children

/-
This file says how the rule that answers for a node changes with the list of rules. Later rules come first,
so a rule counts only where no later rule matches, and the order of two rules only where both match.
-/

namespace ArticleRules.Rule

/-- The same rule answers for the node from both lists, in contexts of all kinds. -/
def AgreeAt (rules others : List Rule) (place : Place) : Prop :=
  ∀ kind, findMatch rules kind place = findMatch others kind place

/-- Both lists agree at the places and everywhere below them. -/
def AgreeFrom (rules others : List Rule) (places : List Place) : Prop :=
  ∀ place ∈ places,
    AgreeAt rules others place ∧ ∀ below ∈ place.descendants, AgreeAt rules others below

/-- Everywhere below the place, in contexts of all kinds, where the rule matches a later one matches too. -/
def CoveredBelow (rule : Rule) (after : List Rule) (place : Place) : Prop :=
  ∀ kind, ∀ below ∈ place.descendants, rule.matchesAt kind below = true →
    ∃ later ∈ after, later.matchesAt kind below = true

/-- Nowhere below the place and in no kind of context do both rules match. -/
def ApartBelow (first second : Rule) (place : Place) : Prop :=
  ∀ kind, ∀ below ∈ place.descendants,
    ¬ (first.matchesAt kind below = true ∧ second.matchesAt kind below = true)

section findMatch

variable {kind : Kind} {place : Place}

theorem findMatch_append (before after : List Rule) (kind : Kind) (place : Place) :
    findMatch (before ++ after) kind place =
      (findMatch after kind place).or (findMatch before kind place) := by
  rw [findMatch, List.reverse_append, List.find?_append]
  rfl

theorem findMatch_singleton (rule : Rule) (kind : Kind) (place : Place) :
    findMatch [rule] kind place = if rule.matchesAt kind place then some rule else none := by
  cases matching : rule.matchesAt kind place <;> simp [findMatch, matching]

theorem findMatch_cons (rule : Rule) (after : List Rule) (kind : Kind) (place : Place) :
    findMatch (rule :: after) kind place =
      (findMatch after kind place).or (if rule.matchesAt kind place then some rule else none) := by
  rw [← findMatch_singleton, ← findMatch_append]
  rfl

theorem exists_findMatch {rules : List Rule} {rule : Rule} (member : rule ∈ rules)
    (matching : rule.matchesAt kind place = true) :
    ∃ found, findMatch rules kind place = some found := by
  refine Option.isSome_iff_exists.1 (List.find?_isSome.2 ?_)
  exact ⟨rule, List.mem_reverse.2 member, matching⟩

/-- Where a later rule matches as well, it makes no difference whether a rule is there. -/
theorem findMatch_covered {rule : Rule} {after : List Rule}
    (covered : rule.matchesAt kind place = true → ∃ later ∈ after, later.matchesAt kind place = true)
    (before : List Rule) :
    findMatch (before ++ rule :: after) kind place = findMatch (before ++ after) kind place := by
  rw [findMatch_append, findMatch_append, findMatch_cons]
  cases matching : rule.matchesAt kind place with
  | false => simp
  | true =>
      obtain ⟨later, member, matchesLater⟩ := covered matching
      obtain ⟨found, answers⟩ := exists_findMatch member matchesLater
      rw [answers]
      rfl

/-- Where not both of two neighbours match, it makes no difference which one comes first. -/
theorem findMatch_swap {first second : Rule}
    (apart : ¬ (first.matchesAt kind place = true ∧ second.matchesAt kind place = true))
    (before after : List Rule) :
    findMatch (before ++ first :: second :: after) kind place =
      findMatch (before ++ second :: first :: after) kind place := by
  simp only [findMatch_append, findMatch_cons, Option.or_assoc]
  cases matchesFirst : first.matchesAt kind place with
  | false => simp
  | true =>
      cases matchesSecond : second.matchesAt kind place with
      | false => simp
      | true => exact absurd ⟨matchesFirst, matchesSecond⟩ apart

theorem matchesAt_congr {rule other : Rule} (sameContext : other.context = rule.context)
    (sameSelector : other.selector = rule.selector) (kind : Kind) (place : Place) :
    other.matchesAt kind place = rule.matchesAt kind place := by
  rw [matchesAt, matchesAt, sameContext, sameSelector]

end findMatch

namespace AgreeFrom

variable {rules others : List Rule} {place : Place} {rest : List Place}

theorem head (agree : AgreeFrom rules others (place :: rest)) : AgreeAt rules others place :=
  (agree place List.mem_cons_self).1

theorem tail (agree : AgreeFrom rules others (place :: rest)) : AgreeFrom rules others rest :=
  fun other member => agree other (List.mem_cons_of_mem _ member)

theorem of_descendants (agree : ∀ below ∈ place.descendants, AgreeAt rules others below) :
    AgreeFrom rules others place.children := by
  intro child member
  refine ⟨agree child (Place.mem_descendants_of_mem_children member), fun below lower => ?_⟩
  exact agree below (Place.mem_descendants_of_child member lower)

theorem of_everywhere (agree : ∀ place, AgreeAt rules others place) (places : List Place) :
    AgreeFrom rules others places :=
  fun place _ => ⟨agree place, fun below _ => agree below⟩

theorem inside (agree : AgreeFrom rules others (place :: rest)) :
    AgreeFrom rules others place.children :=
  of_descendants (agree place List.mem_cons_self).2

end AgreeFrom

end ArticleRules.Rule
