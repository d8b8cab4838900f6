import ArticleRules.Proofs.Css.Matching
import ArticleRules.Proofs.Rule.Plan
import ArticleRules.Proofs.Rule.Routine

/-
This file says which rule answers for a node: it is one of the rules given, it is of the kind of the
context, and the node is an element.
-/

namespace ArticleRules

namespace Rule

/-- The rules of the library are all but those of a host. -/
def isBuiltIn : Rule → Bool
  | host _ => false
  | _ => true

/-- All rules of a list are of the library. -/
def AllBuiltIn (rules : List Rule) : Prop :=
  ∀ rule ∈ rules, rule.isBuiltIn = true

instance (rules : List Rule) : Decidable (AllBuiltIn rules) :=
  inferInstanceAs (Decidable (∀ rule ∈ rules, rule.isBuiltIn = true))

/-- The rules of hosts in a list fail only with errors that they got from their walks. -/
def HostsRelay (rules : List Rule) : Prop :=
  ∀ host, Rule.host host ∈ rules → ∀ context place, (host.build context place).Relays

/-- No rule of a host in a list starts walks. -/
def HostsStay (rules : List Rule) : Prop :=
  ∀ host, Rule.host host ∈ rules → ∀ context place, (host.build context place).stays = true

theorem AllBuiltIn.hostsStay {rules : List Rule} (builtIn : AllBuiltIn rules) : HostsStay rules := by
  intro host member
  cases builtIn _ member

section findMatch

variable {rules : List Rule} {kind : Kind} {place : Place} {rule : Rule}

theorem mem_of_findMatch (found : findMatch rules kind place = some rule) : rule ∈ rules :=
  List.mem_reverse.1 (List.mem_of_find?_eq_some found)

theorem matchesAt_of_findMatch (found : findMatch rules kind place = some rule) :
    kind = rule.context ∧ rule.selector.matchesAt place = true := by
  have matching := List.find?_some found
  simpa [matchesAt] using matching

theorem isElement_of_findMatch (found : findMatch rules kind place = some rule) :
    place.isElement = true :=
  Selector.isElement_of_matchesAt (matchesAt_of_findMatch found).2

end findMatch

end Rule

/-- The newest rule that matches a visible node in this context plans what to do with it. -/
structure Responds (rules : List Rule) (context : Element) (place : Place) (rule : Rule)
    (planned : Except Error Plan) : Prop where
  visible : place.node.isSkippable = false
  matched : Rule.findMatch rules context.kind place = some rule
  plans : rule.plan context place = planned

namespace Responds

variable {rules : List Rule} {context : Element} {place : Place} {rule : Rule}
  {planned : Except Error Plan}

theorem kind_eq (response : Responds rules context place rule planned) :
    context.kind = rule.context :=
  (Rule.matchesAt_of_findMatch response.matched).1

theorem mem (response : Responds rules context place rule planned) : rule ∈ rules :=
  Rule.mem_of_findMatch response.matched

theorem isElement (response : Responds rules context place rule planned) : place.isElement = true :=
  Rule.isElement_of_findMatch response.matched

end Responds

end ArticleRules
