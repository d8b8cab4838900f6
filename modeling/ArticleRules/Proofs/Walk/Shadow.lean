import ArticleRules.Proofs.Walk.Kind

/-
This file foresees the warnings of a walk without running it. A recursion that carries only kinds finds every
node that no rule matches, and the walk reports these nodes in this order until it ends or fails.
-/

namespace ArticleRules

/-- What a warning says about a node: the kind of context in which no rule matched it, and how deep. -/
structure Entry where
  place : Place
  kind : Kind
  depth : Nat

def Warning.entry (warning : Warning) : Entry :=
  ⟨warning.place, warning.context.kind, warning.depth⟩

/-- The kind of context in which a rule walks on below a node, if it walks on there. -/
def Rule.descendsIn? (rule : Rule) (kind : Kind) (place : Place) : Option Kind :=
  match rule with
  | passThrough _ _ => some kind
  | header _ => some .header
  | interactive pattern =>
    if pattern.isTruthy PropertyName.interactiveCaption place then some .interactive else none
  | video pattern => if pattern.isTruthy PropertyName.videoCaption place then some .video else none
  | metadata _ | headerTitle _ | headerKicker _ | caption _ _ | ignore _ _ | host _ => none

mutual

/-- The nodes below a node that no rule matches, in a context of the given kind. -/
def shadowBelow (rules : List Rule) (kind : Kind) (node : Node) (above : List Step) (depth : Nat) :
    List Entry :=
  match node with
  | .document children => shadowAmong rules kind node children 0 above depth
  | .fragment children => shadowAmong rules kind node children 0 above depth
  | .element _ children => shadowAmong rules kind node children 0 above depth
  | .doctype _ | .comment _ | .text _ | .instruction _ _ => []

/-- The same for siblings: a node is passed over, found unmatched, or looked into for the rule it matches. -/
def shadowAmong (rules : List Rule) (kind : Kind) (parent : Node) (nodes : List Node) (index : Nat)
    (above : List Step) (depth : Nat) : List Entry :=
  match nodes with
  | [] => []
  | node :: rest =>
    let place : Place := ⟨node, ⟨parent, index⟩ :: above⟩
    let here :=
      if node.isSkippable then []
      else
        match Rule.findMatch rules kind place with
        | none => [⟨place, kind, depth⟩]
        | some rule =>
          match rule.descendsIn? kind place with
          | some inner => shadowBelow rules inner node place.above (depth + 1)
          | none => []
    here ++ shadowAmong rules kind parent rest (index + 1) above depth

end

/-- The nodes below a place that no rule matches, from a context of the given kind. -/
def shadow (rules : List Rule) (kind : Kind) (place : Place) (depth : Nat) : List Entry :=
  shadowBelow rules kind place.node place.above depth

/-- What the recursion finds at one of several siblings. -/
def shadowAt (rules : List Rule) (kind : Kind) (depth : Nat) (place : Place) : List Entry :=
  if place.node.isSkippable then []
  else
    match Rule.findMatch rules kind place with
    | none => [⟨place, kind, depth⟩]
    | some rule =>
      match rule.descendsIn? kind place with
      | some inner => shadow rules inner place (depth + 1)
      | none => []

theorem shadowAmong_eq_flatMap (rules : List Rule) (kind : Kind) (parent : Node) (nodes : List Node)
    (index : Nat) (above : List Step) (depth : Nat) :
    shadowAmong rules kind parent nodes index above depth =
      (placesFrom parent above index nodes).flatMap (shadowAt rules kind depth) := by
  induction nodes generalizing index with
  | nil => rw [shadowAmong, placesFrom, List.flatMap_nil]
  | cons node rest ih =>
      rw [shadowAmong, placesFrom, List.flatMap_cons, ih]
      rfl

/-- The recursion goes through the children of a place in order. -/
theorem shadow_eq_flatMap (rules : List Rule) (kind : Kind) (place : Place) (depth : Nat) :
    shadow rules kind place depth = place.children.flatMap (shadowAt rules kind depth) := by
  rw [Place.children_eq_placesFrom, ← shadowAmong_eq_flatMap]
  obtain ⟨node, above⟩ := place
  cases node <;> simp only [shadow, shadowBelow, Node.children, shadowAmong]

section shadowAt

variable {rules : List Rule} {context next inner : Element} {place : Place} {rule : Rule}
  {finish : Element → Except Error Element}

theorem shadowAt_skipped (skippable : place.node.isSkippable = true) (rules : List Rule) (kind : Kind)
    (depth : Nat) : shadowAt rules kind depth place = [] := by
  rw [shadowAt, if_pos skippable]

theorem shadowAt_reported {kind : Kind} (visible : place.node.isSkippable = false)
    (unmatched : Rule.findMatch rules kind place = none) (depth : Nat) :
    shadowAt rules kind depth place = [⟨place, kind, depth⟩] := by
  simp only [shadowAt, visible, unmatched, Bool.false_eq_true, if_false]

/-- A rule that changes the context at once hides what is below the node. -/
theorem shadowAt_changed (response : Responds rules context place rule (.ok (.done next)))
    (depth : Nat) : shadowAt rules context.kind depth place = [] := by
  have hidden : rule.descendsIn? context.kind place = none := by
    cases Rule.acts_of_plan response.plans with
    | interactive plain built added | video plain built added =>
        rw [Rule.descendsIn?, plain]
        rfl
    | metadata | headerTitle | headerKicker | caption | ignore => rfl
  simp only [shadowAt, response.visible, response.matched, hidden, Bool.false_eq_true, if_false]

/-- A rule that walks on below a node shows what is there in the kind of its inner context. -/
theorem shadowAt_below (response : Responds rules context place rule (.ok (.below inner finish)))
    (depth : Nat) :
    shadowAt rules context.kind depth place =
      place.children.flatMap (shadowAt rules inner.kind (depth + 1)) := by
  have shown : rule.descendsIn? context.kind place = some inner.kind := by
    cases Rule.acts_of_plan response.plans with
    | interactive captioned built | video captioned built =>
        rw [Rule.descendsIn?, captioned]
        rfl
    | header | passThrough => rfl
  rw [← shadow_eq_flatMap]
  simp only [shadowAt, response.visible, response.matched, shown, Bool.false_eq_true, if_false]

end shadowAt

/-- The reports of a walk are all that is expected if it succeeds, and a first part of it if it fails. -/
def Follows (expected : List Entry) (warnings : List Warning) : Except Error Element → Prop
  | .ok _ => warnings.map Warning.entry = expected
  | .error _ => warnings.map Warning.entry <+: expected

namespace Follows

variable {expected first : List Entry} {warnings inside : List Warning} {result : Except Error Element}

theorem startsWith (follows : Follows expected warnings result) :
    warnings.map Warning.entry <+: expected := by
  cases result with
  | error error => exact follows
  | ok element =>
      obtain rfl : warnings.map Warning.entry = expected := follows
      exact List.prefix_rfl

/-- Walks that follow one after the other are expected to report one after the other. -/
theorem append (before : inside.map Warning.entry = first)
    (later : Follows expected warnings result) : Follows (first ++ expected) (inside ++ warnings) result := by
  subst before
  cases result with
  | error error =>
      show (inside ++ warnings).map Warning.entry <+: _
      rw [List.map_append, List.prefix_append_right_inj]
      exact later
  | ok element =>
      show (inside ++ warnings).map Warning.entry = _
      rw [List.map_append, show warnings.map Warning.entry = expected from later]

/-- After a failure nothing more is expected. -/
theorem cutShort {error : Error} (before : inside.map Warning.entry <+: first) (expected : List Entry) :
    Follows (first ++ expected) inside (.error error) :=
  before.trans (List.prefix_append first expected)

end Follows

/-- Visits over rules of the library report what the recursion over kinds finds at their places. -/
theorem Visits.follows {rules : List Rule} {limit depth : Nat} {places : List Place} {context : Element}
    {warnings : List Warning} {result : Except Error Element} (builtIn : Rule.AllBuiltIn rules)
    (visits : Visits rules limit depth places context warnings result) :
    Follows (places.flatMap (shadowAt rules context.kind depth)) warnings result := by
  induction visits with
  | finished => rfl
  | skipped skippable later ih =>
      rw [List.flatMap_cons, shadowAt_skipped skippable]
      exact ih
  | reported visible unmatched later ih =>
      rw [List.flatMap_cons, shadowAt_reported visible unmatched]
      show Follows ([_] ++ _) ([_] ++ _) _
      exact ih.append rfl
  | refused response => exact List.nil_prefix
  | changed response later ih =>
      -- The recursion never looks at the context, but the kind is the same for the later siblings.
      rw [response.kind_done] at ih
      rw [List.flatMap_cons, shadowAt_changed response]
      exact ih
  | cut response deep => exact List.nil_prefix
  | failedBelow response room below ih | refusedAfter response room below refusal ih =>
      rw [List.flatMap_cons, shadowAt_below response]
      exact .cutShort ih.startsWith _
  | completed response room below finishes later ihBelow ihLater =>
      have kept := response.kind_finished (below.kind_eq builtIn rfl) finishes
      rw [kept] at ihLater
      rw [List.flatMap_cons, shadowAt_below response]
      exact ihLater.append ihBelow
  | hostFailed response | hostEnded response => exact (response.not_hosted builtIn).elim

/-- The warnings that a transformation over rules of the library adds are foreseen by a recursion that knows
the kind of the context only. They are all that it finds if the transformation succeeds, and a first part of
it otherwise. -/
theorem Converter.transform_shadow (converter : Converter) (builtIn : Rule.AllBuiltIn converter.rules)
    (context : Element) (place : Place) :
    ∃ warnings, (converter.transform context place).2 = converter.record warnings ∧
      (∀ element, (converter.transform context place).1 = .ok element →
        warnings.map Warning.entry =
          shadow converter.rules context.kind place (converter.state.depth + 1)) ∧
      ∀ error, (converter.transform context place).1 = .error error →
        warnings.map Warning.entry <+:
          shadow converter.rules context.kind place (converter.state.depth + 1) := by
  obtain ⟨warnings, result, walks, transforms⟩ := converter.transform_walks context place
  rw [transforms]
  have follows : Follows (shadow converter.rules context.kind place (converter.state.depth + 1))
      warnings result := by
    cases walks with
    | cut deep => exact List.nil_prefix
    | entered room visits =>
        rw [shadow_eq_flatMap]
        exact visits.follows builtIn
  refine ⟨warnings, rfl, ?_, ?_⟩
  · rintro element rfl
    exact follows
  · rintro error rfl
    exact follows

theorem Converter.transform_shadow_heading :
    ∃ warnings, (heading.transform (.article {}) (.root .boxes)).2 = heading.record warnings ∧
      warnings.map Warning.entry = shadow heading.rules .article (.root .boxes) 1 ∧
      warnings.map (fun warning => (warning.place.path, warning.context.kind, warning.depth)) =
        [([0, 0], .header, 2)] := by
  have succeeds : (heading.transform (.article {}) (.root .boxes)).1 =
      .ok (.article { header := some {} }) := rfl
  obtain ⟨warnings, recorded, complete, _⟩ :=
    transform_shadow heading heading_builtIn (.article {}) (.root .boxes)
  have entries := complete _ succeeds
  refine ⟨warnings, recorded, entries, ?_⟩
  have found := congrArg (List.map fun entry => (entry.place.path, entry.kind, entry.depth)) entries
  rw [List.map_map] at found
  exact found

end ArticleRules
