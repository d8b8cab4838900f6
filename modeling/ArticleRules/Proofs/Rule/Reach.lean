import ArticleRules.Proofs.Rule.Kind

/-
This file says which kinds of contexts a walk can come to. A rule leads from articles to headers, interactive
elements and videos, and from all other contexts nowhere else, and it is looked up among the rules of its kind.
-/

namespace ArticleRules

namespace Kind

/-- The kinds of contexts that a walk can come to from a context of the given kind. -/
def reach : Kind → List Kind
  | article => [article, header, interactive, video]
  | header => [header]
  | interactive => [interactive]
  | video => [video]
  | caption => [caption]

theorem mem_reach_self (kind : Kind) : kind ∈ kind.reach := by
  cases kind <;> simp [reach]

theorem mem_reach_trans {outer inner kind : Kind} (lower : inner ∈ outer.reach)
    (lowest : kind ∈ inner.reach) : kind ∈ outer.reach := by
  cases outer with
  | article =>
      have cases : inner = .article ∨ inner = .header ∨ inner = .interactive ∨ inner = .video := by
        simpa [reach] using lower
      rcases cases with rfl | rfl | rfl | rfl <;> simp_all [reach]
  | header | interactive | video | caption =>
      rw [List.mem_singleton.1 lower] at lowest
      exact lowest

end Kind

namespace Rule

/-- The rules for contexts of one kind, in their order. -/
def forKind (kind : Kind) (rules : List Rule) : List Rule :=
  rules.filter fun rule => kind == rule.context

/-- The rule that answers for a node is found among the rules for the kind of the context. -/
theorem findMatch_forKind (rules : List Rule) (kind : Kind) (place : Place) :
    findMatch (forKind kind rules) kind place = findMatch rules kind place := by
  rw [findMatch, findMatch, forKind, ← List.filter_reverse, List.find?_filter]
  congr 1
  funext rule
  by_cases same : kind = rule.context <;> simp [matchesAt, same]

/-- Both lists have the same rules for each of the kinds, in the same order. -/
def SameFor (kinds : List Kind) (rules others : List Rule) : Prop :=
  ∀ kind ∈ kinds, forKind kind rules = forKind kind others

namespace SameFor

variable {rules others : List Rule} {kinds fewer : List Kind} {kind : Kind}

theorem findMatch_eq (same : SameFor kinds rules others) (member : kind ∈ kinds) (place : Place) :
    findMatch rules kind place = findMatch others kind place := by
  have sameRules := same kind member
  rw [← findMatch_forKind rules, sameRules, findMatch_forKind]

theorem mono (same : SameFor kinds rules others) (fewerKinds : ∀ kind ∈ fewer, kind ∈ kinds) :
    SameFor fewer rules others := by
  intro kind member
  exact same kind (fewerKinds kind member)

/-- What holds for a kind holds for the kinds below it. -/
theorem inner {outer inner : Kind} (same : SameFor outer.reach rules others)
    (lower : inner ∈ outer.reach) : SameFor inner.reach rules others :=
  same.mono fun _ lowest => Kind.mem_reach_trans lower lowest

end SameFor

end Rule

/-- A rule walks on below a node in a context that is in reach of its own. -/
theorem Descends.kind_mem_reach {place : Place} {rule : Rule} {context inner : Element}
    {finish : Element → Except Error Element} (descends : Descends place rule context inner finish) :
    inner.kind ∈ context.kind.reach := by
  cases descends with
  | passThrough => exact Kind.mem_reach_self _
  | header | interactive | video => simp [Element.kind, Kind.reach]

/-- So does a rule that answers for a node. -/
theorem Responds.kind_mem_reach {rules : List Rule} {place : Place} {rule : Rule}
    {context inner : Element} {finish : Element → Except Error Element}
    (response : Responds rules context place rule (.ok (.below inner finish))) :
    inner.kind ∈ context.kind.reach := by
  have descends := Rule.acts_of_plan response.plans
  exact Descends.kind_mem_reach descends

end ArticleRules
