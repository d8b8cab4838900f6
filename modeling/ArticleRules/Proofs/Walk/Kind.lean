import ArticleRules.Proofs.Rule.Kind
import ArticleRules.Proofs.Walk.Visits

/-
This file shows that walks are safe in kind. Rules of the library keep the kind of the context, and a
context of the wrong kind comes up in two places only, also when hosts swap contexts and start walks.
-/

namespace ArticleRules

section builtIn

variable {rules : List Rule} {limit depth : Nat} {places : List Place} {context element : Element}
  {warnings : List Warning} {result : Except Error Element} {error : Error}

/-- Visits over rules of the library end with a context of the kind that they began with. -/
theorem Visits.kind_eq (builtIn : Rule.AllBuiltIn rules)
    (visits : Visits rules limit depth places context warnings result) (ended : result = .ok element) :
    element.kind = context.kind := by
  induction visits generalizing element with
  | finished =>
      cases ended
      rfl
  | skipped skippable later ih | reported visible unmatched later ih => exact ih ended
  | changed response later ih =>
      exact (ih ended).trans response.kind_done
  | completed response room below finishes later ihBelow ihLater =>
      exact (ihLater ended).trans (response.kind_finished (ihBelow rfl) finishes)
  | refused | cut | failedBelow | refusedAfter => cases ended
  | hostFailed response | hostEnded response => exact (response.not_hosted builtIn).elim

/-- Visits over rules of the library fail for a flaw of a node, for their depth, or because captions are
asked for where none can be. What comes back from below a node never fails them. -/
theorem Visits.error_cases (builtIn : Rule.AllBuiltIn rules)
    (visits : Visits rules limit depth places context warnings result) (failed : result = .error error) :
    error.isFlaw = true ∨ error = .depthExceeded limit ∨
      ∃ pattern kind, .caption pattern kind ∈ rules ∧ kind ≠ .interactive ∧ kind ≠ .video ∧
        error = .contextMismatch .interactive kind := by
  induction visits with
  | finished => cases failed
  | skipped skippable later ih | reported visible unmatched later ih | changed response later ih =>
      exact ih failed
  | failedBelow response room below ih => exact ih failed
  | completed response room below finishes later ihBelow ihLater => exact ihLater failed
  | cut response deep =>
      cases failed
      exact Or.inr (Or.inl rfl)
  | refused response =>
      cases failed
      obtain flaw | ⟨pattern, kind, rfl, unfit⟩ := Rule.plan_eq_error response.kind_eq response.plans
      · exact Or.inl flaw
      · exact Or.inr (Or.inr ⟨pattern, kind, response.mem, unfit⟩)
  | refusedAfter response room below refusal =>
      -- The walk below kept the kind of the inner context, so the rule could go on.
      have descends := Rule.acts_of_plan response.plans
      obtain ⟨next, finishes⟩ := Descends.exists_finish descends (below.kind_eq builtIn rfl)
      rw [finishes] at refusal
      cases refusal
  | hostFailed response | hostEnded response => exact (response.not_hosted builtIn).elim

end builtIn

/-- One use of a rule in a walk, with the depth of the walk. -/
structure Application where
  rule : Rule
  context : Element
  place : Place
  depth : Nat

/-- The uses of rules that visits come to, in a walk that may fail later or elsewhere. The walks that hosts
start count too. -/
inductive Applies (rules : List Rule) (limit : Nat) :
    Nat → List Place → Element → Application → Prop where
  | here (visible : place.node.isSkippable = false)
      (matched : Rule.findMatch rules context.kind place = some rule) :
      Applies rules limit depth (place :: rest) context ⟨rule, context, place, depth⟩
  | inside {inner : Element}
      (response : Responds rules context place rule (.ok (.below inner finish)))
      (room : depth < limit)
      (applies : Applies rules limit (depth + 1) place.children inner application) :
      Applies rules limit depth (place :: rest) context application
  | hosted {walk : HostWalk} (response : Responds rules context place rule (.ok (.hosted routine)))
      (room : depth < limit) (runs : routine.Runs walks ended)
      (below : ∀ walk ∈ walks,
        Visits rules limit (depth + 1) walk.place.children walk.context walk.warnings walk.result)
      (started : walk ∈ walks)
      (applies : Applies rules limit (depth + 1) walk.place.children walk.context application) :
      Applies rules limit depth (place :: rest) context application
  | later (visit : Visits rules limit depth [place] context warnings (.ok next))
      (applies : Applies rules limit depth rest next application) :
      Applies rules limit depth (place :: rest) context application

/-- The uses of rules that a transformation comes to, with those in walks that hosts start. -/
def Converter.Makes (converter : Converter) (context : Element) (place : Place)
    (application : Application) : Prop :=
  converter.state.depth < converter.maxDepth ∧
    Applies converter.rules converter.maxDepth (converter.state.depth + 1) place.children context
      application

/-- Every use of a rule in a walk is one for which the rule was dispatched. -/
theorem Applies.dispatched {rules : List Rule} {limit depth : Nat} {places : List Place}
    {context : Element} {application : Application}
    (applies : Applies rules limit depth places context application) :
    Rule.findMatch rules application.context.kind application.place = some application.rule := by
  induction applies with
  | here visible matched => exact matched
  | inside response room applies ih | later visit applies ih => exact ih
  | hosted response room runs below started applies ih => exact ih

/-- The visit that uses the rule ends with an error. -/
def Application.FailsWith (application : Application) (rules : List Rule) (limit : Nat)
    (error : Error) : Prop :=
  ∃ warnings, Visits rules limit application.depth [application.place] application.context warnings
    (.error error)

/-- The rule of a host ends with an error that none of its walks came back with. -/
def Application.FailsByItself (application : Application) (rules : List Rule) (limit : Nat)
    (error : Error) : Prop :=
  ∃ host walks, application.rule = .host host ∧
    (host.build application.context application.place).Runs walks (.error error) ∧
    (∀ walk ∈ walks,
      Walks rules limit application.depth walk.place walk.context walk.warnings walk.result) ∧
    ∀ walk ∈ walks, walk.result ≠ .error error

/-- No host fails by itself in a transformation. It may still hand on an error that it got from a walk. -/
def Converter.HostsSucceed (converter : Converter) (context : Element) (place : Place) : Prop :=
  ∀ application, converter.Makes context place application → ∀ error,
    ¬ application.FailsByItself converter.rules converter.maxDepth error

theorem Converter.hostsSucceed_of_relay {converter : Converter} (relay : Rule.HostsRelay converter.rules)
    (context : Element) (place : Place) : converter.HostsSucceed context place := by
  rintro application ⟨_, applies⟩ error ⟨host, walks, used, runs, _, none⟩
  have member := Rule.mem_of_findMatch applies.dispatched
  rw [used] at member
  obtain ⟨walk, started, failed⟩ := relay host member _ _ walks error runs
  exact none walk started failed

/-- Two uses of rules can find a context of the wrong kind: a caption rule for a kind that holds no
captions, and a header rule that takes the header back from the walk below its node. -/
inductive Mismatches (rules : List Rule) (limit : Nat) : Kind → Kind → Application → Prop where
  | caption (notInteractive : kind ≠ .interactive) (notVideo : kind ≠ .video) :
      Mismatches rules limit .interactive kind ⟨.caption pattern kind, context, place, depth⟩
  | header {article : Article} {inner : Element}
      (walks : Walks rules limit depth place (.header (article.header.getD {})) warnings (.ok inner))
      (mismatch : inner.asHeader = .error (.contextMismatch expected found)) :
      Mismatches rules limit expected found ⟨.header pattern, .article article, place, depth⟩

/-- Visits that end with a context of the wrong kind end in one of these two uses, or in that of a host that
fails by itself. -/
theorem Visits.mismatch_origin {rules : List Rule} {limit depth : Nat} {places : List Place}
    {context : Element} {warnings : List Warning} {result : Except Error Element}
    {expected found : Kind} (visits : Visits rules limit depth places context warnings result)
    (failed : result = .error (.contextMismatch expected found)) :
    ∃ application, Applies rules limit depth places context application ∧
      application.FailsWith rules limit (.contextMismatch expected found) ∧
      (Mismatches rules limit expected found application ∨
        application.FailsByItself rules limit (.contextMismatch expected found)) := by
  -- The visits before the failing one are finished, and a use in later visits is one of these visits.
  induction visits with
  | finished | cut => cases failed
  | skipped skippable later ih =>
      obtain ⟨application, applies, origin⟩ := ih failed
      exact ⟨application, .later (.skipped skippable .finished) applies, origin⟩
  | reported visible unmatched later ih =>
      obtain ⟨application, applies, origin⟩ := ih failed
      exact ⟨application, .later (.reported visible unmatched .finished) applies, origin⟩
  | changed response later ih =>
      obtain ⟨application, applies, origin⟩ := ih failed
      exact ⟨application, .later (.changed response .finished) applies, origin⟩
  | completed response room below finishes later ihBelow ihLater =>
      obtain ⟨application, applies, origin⟩ := ihLater failed
      exact ⟨application, .later (.completed response room below finishes .finished) applies,
        origin⟩
  | failedBelow response room below ih =>
      obtain ⟨application, applies, origin⟩ := ih failed
      exact ⟨application, .inside response room applies, origin⟩
  | refused response =>
      cases failed
      obtain flaw | ⟨pattern, kind, rfl, notInteractive, notVideo, unfit⟩ :=
        Rule.plan_eq_error response.kind_eq response.plans
      · cases flaw
      · cases unfit
        exact ⟨_, .here response.visible response.matched, ⟨_, .refused response⟩,
          Or.inl (.caption notInteractive notVideo)⟩
  | refusedAfter response room below refusal =>
      cases failed
      have descends := Rule.acts_of_plan response.plans
      obtain ⟨pattern, article, rfl, rfl, rfl, mismatch⟩ :=
        Descends.header_of_mismatch descends refusal
      exact ⟨_, .here response.visible response.matched, ⟨_, .refusedAfter response room below refusal⟩,
        Or.inl (.header (.entered room below) mismatch)⟩
  | @hostFailed context place rule routine walks error depth rest response runs cut below ih =>
      cases failed
      have courses := HostWalk.walks cut below
      by_cases handedOn : ∃ walk ∈ walks, walk.result = .error (.contextMismatch expected found)
      · -- A walk that ends like this was not cut for its depth.
        obtain ⟨walk, started, mismatch⟩ := handedOn
        obtain room | deep := Nat.lt_or_ge depth limit
        · obtain ⟨application, applies, origin⟩ := ih room walk started mismatch
          exact ⟨application, .hosted response room runs (below room) started applies, origin⟩
        · rw [(cut deep walk started).2] at mismatch
          cases mismatch
      · obtain ⟨host, rfl, rfl⟩ := Rule.acts_of_plan response.plans
        refine ⟨_, .here response.visible response.matched, ⟨_, .hostFailed response runs cut below⟩,
          Or.inr ⟨host, walks, rfl, runs, courses, fun walk started same => ?_⟩⟩
        exact handedOn ⟨walk, started, same⟩
  | hostEnded response runs cut below later ihBelow ihLater =>
      obtain ⟨application, applies, origin⟩ := ihLater failed
      exact ⟨application, .later (.hostEnded response runs cut below .finished) applies, origin⟩

section Walks

variable {rules : List Rule} {limit depth : Nat} {place : Place} {context element : Element}
  {warnings : List Warning} {error : Error} {expected found : Kind}

theorem Walks.kind_eq (builtIn : Rule.AllBuiltIn rules)
    (walks : Walks rules limit depth place context warnings (.ok element)) :
    element.kind = context.kind := by
  cases walks with
  | entered room visits => exact visits.kind_eq builtIn rfl

theorem Walks.error_cases (builtIn : Rule.AllBuiltIn rules)
    (walks : Walks rules limit depth place context warnings (.error error)) :
    error.isFlaw = true ∨ error = .depthExceeded limit ∨
      ∃ pattern kind, .caption pattern kind ∈ rules ∧ kind ≠ .interactive ∧ kind ≠ .video ∧
        error = .contextMismatch .interactive kind := by
  cases walks with
  | cut deep => exact Or.inr (Or.inl rfl)
  | entered room visits => exact visits.error_cases builtIn rfl

end Walks

/-- Transformations are safe in kind. Over rules of the library the kind of the context comes back, no
element is refused for the body, and only a caption rule for a kind that holds no captions finds a context
of the wrong kind. Next to hosts that do not fail by themselves, the header rule can find one too, in what
its walk gives back, also when it is used in a walk that a host started. No rule starts from a context of the
wrong kind, and before its walks no rule but a caption rule finds one. -/
theorem Converter.transform_kindSafe (converter : Converter) (context : Element) (place : Place) :
    (Rule.AllBuiltIn converter.rules →
      (∀ element, (converter.transform context place).1 = .ok element → element.kind = context.kind) ∧
      (∀ value refusal,
        (converter.transform context place).1 ≠ .error (.invalidValue .children value refusal)) ∧
      ∀ expected found,
        (converter.transform context place).1 = .error (.contextMismatch expected found) →
          ∃ pattern kind, .caption pattern kind ∈ converter.rules ∧ kind ≠ .interactive ∧
            kind ≠ .video) ∧
    (converter.HostsSucceed context place → ∀ expected found,
      (converter.transform context place).1 = .error (.contextMismatch expected found) →
        ∃ application, converter.Makes context place application ∧
          application.rule ∈ converter.rules ∧
          application.FailsWith converter.rules converter.maxDepth (.contextMismatch expected found) ∧
          Mismatches converter.rules converter.maxDepth expected found application) ∧
    ∀ application, converter.Makes context place application →
      application.rule.entry application.context = .ok () ∧
      ∀ expected found,
        application.rule.plan application.context application.place =
            .error (.contextMismatch expected found) →
          ∃ pattern kind, application.rule = .caption pattern kind ∧ kind ≠ .interactive ∧
            kind ≠ .video := by
  obtain ⟨warnings, result, walks, transforms⟩ := converter.transform_walks context place
  rw [transforms]
  refine ⟨fun builtIn => ⟨?_, ?_, ?_⟩, ?_, ?_⟩
  · rintro element rfl
    exact walks.kind_eq builtIn
  · rintro value refusal rfl
    obtain flaw | deep | ⟨_, _, _, _, _, mismatch⟩ := walks.error_cases builtIn
    · cases flaw
    · cases deep
    · cases mismatch
  · rintro expected found rfl
    obtain flaw | deep | ⟨pattern, kind, member, notInteractive, notVideo, _⟩ :=
      walks.error_cases builtIn
    · cases flaw
    · cases deep
    · exact ⟨pattern, kind, member, notInteractive, notVideo⟩
  · rintro succeed expected found rfl
    cases walks with
    | entered room visits =>
        obtain ⟨application, applies, fails, origin⟩ := visits.mismatch_origin rfl
        have notHost := succeed application ⟨room, applies⟩ (.contextMismatch expected found)
        exact ⟨application, ⟨room, applies⟩, Rule.mem_of_findMatch applies.dispatched, fails,
          origin.resolve_right notHost⟩
  · intro application made
    have dispatched := (Rule.matchesAt_of_findMatch made.2.dispatched).1
    exact ⟨Rule.entry_eq_ok dispatched application.place,
      fun expected found refused => Rule.caption_of_plan_mismatch dispatched refused⟩

/-- An element in an element in a document. -/
def Node.boxes : Node :=
  .document [.element ⟨"", "box", []⟩ [.element ⟨"", "box", []⟩ []]]

/-- Three elements, each in the one before. -/
def Node.moreBoxes : Node :=
  .document [.element ⟨"", "box", []⟩ [.element ⟨"", "box", []⟩ [.element ⟨"", "box", []⟩ []]]]

/-- Everything in an article is its header. -/
def Converter.heading : Converter :=
  { rules := [.header ⟨.itself, []⟩] }

theorem Converter.heading_builtIn : Rule.AllBuiltIn heading.rules := by
  intro rule member
  rw [List.mem_singleton.1 member]
  rfl

/-- A host walks on in an article, passes on what fails there, and swaps its context for a video. -/
def Routine.swap (place : Place) : Routine :=
  .walk (.article {}) place fun
    | .ok _ => .ok (.video {})
    | .error cause => .error cause

theorem Routine.swap_relays (place : Place) : (swap place).Relays := by
  intro walks cause runs
  cases runs with
  | @walk _ _ _ _ _ _ outcome later =>
      cases outcome with
      | ok element => cases later
      | error error =>
          cases later
          exact ⟨_, List.mem_cons_self, rfl⟩

/-- Everything in a header is swapped by the host. -/
def Converter.swapping : Converter :=
  { rules := [.header ⟨.itself, []⟩, .host ⟨"Swap", .header, .itself, fun _ => .swap⟩] }

/-- In the walk that the host starts below the outer box, the header rule gets a video back from below the
middle one. -/
theorem Converter.transform_kindSafe_swapping :
    (∃ element, (heading.transform (.article {}) (.root .boxes)).1 = .ok element ∧
      element.kind = .article) ∧
    swapping.HostsSucceed (.header {}) (.root .moreBoxes) ∧
    ∃ application, swapping.Makes (.header {}) (.root .moreBoxes) application ∧
      application.rule ∈ swapping.rules ∧
      application.FailsWith swapping.rules swapping.maxDepth (.contextMismatch .header .video) ∧
      Mismatches swapping.rules swapping.maxDepth .header .video application := by
  have safe := (transform_kindSafe heading (.article {}) (.root .boxes)).1 heading_builtIn
  have relay : Rule.HostsRelay swapping.rules := by
    intro host member context place
    simp only [swapping, List.mem_cons, List.not_mem_nil, or_false, reduceCtorEq, false_or] at member
    cases member
    exact Routine.swap_relays place
  have succeed := hostsSucceed_of_relay relay (.header {}) (.root .moreBoxes)
  have mismatch := (transform_kindSafe swapping (.header {}) (.root .moreBoxes)).2.1 succeed
  exact ⟨⟨.article { header := some {} }, rfl, safe.1 _ rfl⟩, succeed, mismatch .header .video rfl⟩

end ArticleRules
