import ArticleRules.Proofs.Rule.Action

/-
This file says how rules treat the kind of their context. A rule of the library that answers for a node
keeps the kind, and it refuses the node for a flaw, unless it attaches captions where none can be.
-/

namespace ArticleRules

/-- A caption is attached to interactive elements and videos, and they keep their kind. -/
theorem Element.kind_attachCaption {element next : Element} {caption : Caption}
    (attaches : element.attachCaption caption = .ok next) : next.kind = element.kind := by
  cases element <;> cases attaches <;> rfl

theorem Element.attachCaption_error {element : Element} {caption : Caption} {error : Error}
    (refused : element.attachCaption caption = .error error) :
    element.kind ≠ .interactive ∧ element.kind ≠ .video ∧
      error = .contextMismatch .interactive element.kind := by
  cases element <;> cases refused <;> exact ⟨Kind.noConfusion, Kind.noConfusion, rfl⟩

/-- The only mismatch of kinds in the body is not one of contexts. -/
theorem Article.addChild_error {article : Article} {child : Element} {error : Error}
    (refused : article.addChild child = .error error) :
    error = .invalidValue .children child.kind.name .notInBody := by
  cases child <;> cases refused <;> rfl

/-- The kind of an element tells what it is. -/
theorem Element.exists_eq_article {element : Element} (kind : element.kind = .article) :
    ∃ content, element = .article content := by
  cases element <;> cases kind
  exact ⟨_, rfl⟩

theorem Element.exists_eq_header {element : Element} (kind : element.kind = .header) :
    ∃ content, element = .header content := by
  cases element <;> cases kind
  exact ⟨_, rfl⟩

/-- A rule refuses a node for a flaw, or as a caption rule whose contexts hold no captions. -/
theorem Rule.plan_eq_error {rule : Rule} {context : Element} {place : Place} {error : Error}
    (dispatched : context.kind = rule.context) (refused : rule.plan context place = .error error) :
    error.isFlaw = true ∨
      ∃ pattern kind, rule = .caption pattern kind ∧ kind ≠ .interactive ∧ kind ≠ .video ∧
        error = .contextMismatch .interactive kind := by
  cases rule with
  | metadata pattern =>
      obtain ⟨article, rfl⟩ := Element.exists_eq_article dispatched
      rw [plan_metadata] at refused
      exact Or.inl (((pattern.describeArticle_blames article place).bind fun _ => .pure _) error refused)
  | header pattern =>
      obtain ⟨article, rfl⟩ := Element.exists_eq_article dispatched
      cases refused
  | headerTitle pattern =>
      obtain ⟨header, rfl⟩ := Element.exists_eq_header dispatched
      rw [plan_headerTitle] at refused
      exact Or.inl (((header.setTitle_blames _).bind fun _ => .pure _) error refused)
  | headerKicker pattern =>
      obtain ⟨header, rfl⟩ := Element.exists_eq_header dispatched
      rw [plan_headerKicker] at refused
      exact Or.inl (((header.setKicker_blames _).bind fun _ => .pure _) error refused)
  | interactive pattern =>
      obtain ⟨article, rfl⟩ := Element.exists_eq_article dispatched
      rw [plan_interactive] at refused
      refine Or.inl (((pattern.buildInteractive_blames place).bind fun child => ?_) error refused)
      cases pattern.isTruthy PropertyName.interactiveCaption place <;> exact .pure _
  | video pattern =>
      obtain ⟨article, rfl⟩ := Element.exists_eq_article dispatched
      rw [plan_video] at refused
      refine Or.inl (((pattern.buildVideo_blames place).bind fun child => ?_) error refused)
      cases pattern.isTruthy PropertyName.videoCaption place <;> exact .pure _
  | caption pattern kind =>
      obtain flaw | ⟨caption, built, continued⟩ := Except.bind_eq_error refused
      · exact Or.inl (pattern.buildCaption_blames place error flaw)
      obtain unfit | ⟨next, attaches, ended⟩ := Except.bind_eq_error continued
      · obtain ⟨notInteractive, notVideo, rfl⟩ := Element.attachCaption_error unfit
        rw [dispatched] at notInteractive notVideo ⊢
        exact Or.inr ⟨pattern, kind, rfl, notInteractive, notVideo, rfl⟩
      · cases ended
  | passThrough pattern kind => cases refused
  | ignore pattern kind => cases refused
  | host rule => cases refused

theorem Changes.kind_eq {place : Place} {rule : Rule} {context next : Element}
    (changes : Changes place rule context next) : next.kind = context.kind := by
  cases changes with
  | caption built attaches => exact Element.kind_attachCaption attaches
  | metadata | headerTitle | headerKicker | interactive | video | ignore => rfl

section Descends

variable {place : Place} {rule : Rule} {context inner completed next : Element}
  {finish : Element → Except Error Element}

/-- Going on with an element of the kind that was asked for succeeds. -/
theorem Descends.exists_finish (descends : Descends place rule context inner finish)
    (same : completed.kind = inner.kind) : ∃ next, finish completed = .ok next := by
  cases descends with
  | passThrough => exact ⟨completed, rfl⟩
  | header | interactive | video =>
      cases completed <;> cases same
      exact ⟨_, rfl⟩

theorem Descends.kind_eq (descends : Descends place rule context inner finish)
    (same : completed.kind = inner.kind) (finishes : finish completed = .ok next) :
    next.kind = context.kind := by
  cases descends with
  | passThrough =>
      cases finishes
      exact same
  | header =>
      obtain ⟨header, converted, ended⟩ := Except.bind_eq_ok finishes
      cases ended
      rfl
  | interactive captioned built | video captioned built =>
      obtain ⟨article, added, ended⟩ := Except.bind_eq_ok finishes
      cases ended
      rfl

/-- Only the conversion after a header's walk can find a context of the wrong kind. -/
theorem Descends.header_of_mismatch {expected found : Kind}
    (descends : Descends place rule context inner finish)
    (refused : finish completed = .error (.contextMismatch expected found)) :
    ∃ pattern article, rule = .header pattern ∧ context = .article article ∧
      inner = .header (article.header.getD {}) ∧
        completed.asHeader = .error (.contextMismatch expected found) := by
  cases descends with
  | passThrough => cases refused
  | interactive captioned built | video captioned built =>
      obtain unfit | ⟨article, added, ended⟩ := Except.bind_eq_error refused
      · cases Article.addChild_error unfit
      · cases ended
  | header =>
      obtain mismatch | ⟨header, converted, ended⟩ := Except.bind_eq_error refused
      · exact ⟨_, _, rfl, rfl, rfl, mismatch⟩
      · cases ended

end Descends

section Responds

variable {rules : List Rule} {place : Place} {rule : Rule} {context inner completed next : Element}
  {finish : Element → Except Error Element}

/-- A rule that answers for a node and is done keeps the kind of the context. -/
theorem Responds.kind_done (response : Responds rules context place rule (.ok (.done next))) :
    next.kind = context.kind := by
  have changes := Rule.acts_of_plan response.plans
  exact Changes.kind_eq changes

/-- So does a rule that goes on with what a walk below the node gives back, if the walk keeps kinds. -/
theorem Responds.kind_finished (response : Responds rules context place rule (.ok (.below inner finish)))
    (same : completed.kind = inner.kind) (finishes : finish completed = .ok next) :
    next.kind = context.kind := by
  have descends := Rule.acts_of_plan response.plans
  exact Descends.kind_eq descends same finishes

end Responds

/-- The conversion of the context with which a rule starts, if it starts with one. -/
def Rule.entry (rule : Rule) (context : Element) : Except Error Unit :=
  match rule with
  | metadata _ | header _ | interactive _ | video _ => discard context.asArticle
  | headerTitle _ | headerKicker _ => discard context.asHeader
  | caption _ _ | passThrough _ _ | ignore _ _ | host _ => .ok ()

/-- Where the conversion fails, it finds a context of the wrong kind, and the rule fails with it. -/
theorem Rule.plan_of_entry_error {rule : Rule} {context : Element} {error : Error}
    (failed : rule.entry context = .error error) (place : Place) :
    rule.plan context place = .error error ∧
      ∃ expected, error = .contextMismatch expected context.kind := by
  cases rule <;> cases context <;> cases failed <;> exact ⟨rfl, _, rfl⟩

/-- Before its walks, only a caption rule for a kind that holds no captions finds a context of the wrong
kind. -/
theorem Rule.caption_of_plan_mismatch {rule : Rule} {context : Element} {place : Place}
    {expected found : Kind} (dispatched : context.kind = rule.context)
    (refused : rule.plan context place = .error (.contextMismatch expected found)) :
    ∃ pattern kind, rule = .caption pattern kind ∧ kind ≠ .interactive ∧ kind ≠ .video := by
  obtain flaw | ⟨pattern, kind, same, notInteractive, notVideo, _⟩ := plan_eq_error dispatched refused
  · cases flaw
  · exact ⟨pattern, kind, same, notInteractive, notVideo⟩

/-- The conversion finds the kind that the rule was registered for. -/
theorem Rule.entry_eq_ok {rule : Rule} {context : Element} (dispatched : context.kind = rule.context)
    (place : Place) : rule.entry context = .ok () := by
  cases entered : rule.entry context with
  | ok _ => rfl
  | error error =>
      -- The rule would fail with a mismatch, but caption rules start with no conversion.
      obtain ⟨failed, expected, rfl⟩ := plan_of_entry_error entered place
      obtain ⟨pattern, kind, rfl, _⟩ := caption_of_plan_mismatch dispatched failed
      cases entered

end ArticleRules
