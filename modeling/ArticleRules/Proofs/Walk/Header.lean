import ArticleRules.Proofs.Converter.Application
import ArticleRules.Proofs.Walk.Depth

/-
This file shows that the conversion of a header is a loop. A recursion that knows the rules only lists the
elements that they are dispatched for, and each of these sets the title or the kicker, is passed over, or ends
the conversion. So the last element of each sort decides.
-/

namespace ArticleRules

open Requirement

/-- A rule, and the place of an element that it is dispatched for. -/
structure Dispatch where
  rule : Rule
  place : Place

def Rule.isPassThrough : Rule → Bool
  | passThrough _ _ => true
  | _ => false

mutual

/-- The newest rules of a kind that match below a node. Only rules that pass through are followed down. -/
def dispatchesBelow (rules : List Rule) (kind : Kind) (node : Node) (above : List Step) : List Dispatch :=
  match node with
  | .document children => dispatchesAmong rules kind node children 0 above
  | .fragment children => dispatchesAmong rules kind node children 0 above
  | .element _ children => dispatchesAmong rules kind node children 0 above
  | .doctype _ | .comment _ | .text _ | .instruction _ _ => []

/-- The same for siblings: a node is passed over if it is skippable or if no rule matches it. -/
def dispatchesAmong (rules : List Rule) (kind : Kind) (parent : Node) (nodes : List Node) (index : Nat)
    (above : List Step) : List Dispatch :=
  match nodes with
  | [] => []
  | node :: rest =>
    let place : Place := ⟨node, ⟨parent, index⟩ :: above⟩
    let here :=
      if node.isSkippable then []
      else
        match Rule.findMatch rules kind place with
        | none => []
        | some rule =>
          ⟨rule, place⟩ :: if rule.isPassThrough then dispatchesBelow rules kind node place.above else []
    here ++ dispatchesAmong rules kind parent rest (index + 1) above

end

/-- The elements below a place that rules of a kind are dispatched for, in document order. -/
def dispatches (rules : List Rule) (kind : Kind) (place : Place) : List Dispatch :=
  dispatchesBelow rules kind place.node place.above

/-- What the recursion finds at one of several siblings. -/
def dispatchesAt (rules : List Rule) (kind : Kind) (place : Place) : List Dispatch :=
  if place.node.isSkippable then []
  else
    match Rule.findMatch rules kind place with
    | none => []
    | some rule => ⟨rule, place⟩ :: if rule.isPassThrough then dispatches rules kind place else []

theorem dispatchesAmong_eq_flatMap (rules : List Rule) (kind : Kind) (parent : Node) (nodes : List Node)
    (index : Nat) (above : List Step) :
    dispatchesAmong rules kind parent nodes index above =
      (placesFrom parent above index nodes).flatMap (dispatchesAt rules kind) := by
  induction nodes generalizing index with
  | nil => rw [dispatchesAmong, placesFrom, List.flatMap_nil]
  | cons node rest ih =>
      rw [dispatchesAmong, placesFrom, List.flatMap_cons, ih]
      rfl

/-- The recursion goes through the children of a place in order. -/
theorem dispatches_eq_flatMap (rules : List Rule) (kind : Kind) (place : Place) :
    dispatches rules kind place = place.children.flatMap (dispatchesAt rules kind) := by
  rw [Place.children_eq_placesFrom, ← dispatchesAmong_eq_flatMap]
  obtain ⟨node, above⟩ := place
  cases node <;> simp only [dispatches, dispatchesBelow, Node.children, dispatchesAmong]

theorem dispatchesAt_skipped {place : Place} (skippable : place.node.isSkippable = true)
    (rules : List Rule) (kind : Kind) : dispatchesAt rules kind place = [] := by
  rw [dispatchesAt, if_pos skippable]

theorem dispatchesAt_unmatched {rules : List Rule} {kind : Kind} {place : Place}
    (unmatched : Rule.findMatch rules kind place = none) : dispatchesAt rules kind place = [] := by
  rw [dispatchesAt, unmatched]
  exact ite_self []

/-- Rules are dispatched for a place before they are dispatched for what is below it. -/
theorem dispatchesAt_sublist {rules : List Rule} {kind : Kind} {place : Place}
    (below : ((dispatches rules kind place).map Dispatch.place).Sublist place.descendants) :
    ((dispatchesAt rules kind place).map Dispatch.place).Sublist (place :: place.descendants) := by
  unfold dispatchesAt
  split
  · exact List.nil_sublist _
  split
  · exact List.nil_sublist _
  · rw [List.map_cons]
    apply List.Sublist.cons_cons
    split
    · exact below
    · exact List.nil_sublist _

/-- The dispatched elements are some of those below the place, in the same order. -/
theorem dispatches_sublist (rules : List Rule) (kind : Kind) (place : Place) :
    ((dispatches rules kind place).map Dispatch.place).Sublist place.descendants := by
  induction place using Place.induction_on_children with
  | step place ih =>
      rw [dispatches_eq_flatMap, Place.descendants_eq_flatMap]
      -- One child after the other adds its part to both lists.
      generalize place.children = children at ih
      induction children with
      | nil => exact .slnil
      | cons child rest ihRest =>
          obtain ⟨first, others⟩ := List.forall_mem_cons.1 ih
          rw [List.flatMap_cons, List.flatMap_cons, List.map_append]
          exact (dispatchesAt_sublist first).append (ihRest others)

/-- A header has no caption, so that a caption rule ends its conversion. -/
def Pattern.captionError (pattern : Pattern) (place : Place) : Error :=
  match pattern.buildCaption place with
  | .ok _ => .contextMismatch .interactive .header
  | .error error => error

namespace Dispatch

/-- What a dispatched element must meet for the conversion of a header to go on. -/
def requirements (dispatch : Dispatch) : List Requirement :=
  match dispatch.rule with
  | .headerTitle _ => [notBlank .headerTitle dispatch.place.textContent]
  | .headerKicker _ => [notBlank .headerKicker dispatch.place.textContent]
  | .caption pattern _ => [⟨False, pattern.captionError dispatch.place⟩]
  | _ => []

/-- The title that an element gives. -/
def title? (dispatch : Dispatch) : Option String :=
  match dispatch.rule with
  | .headerTitle _ => some (Text.trim dispatch.place.textContent)
  | _ => none

/-- The kicker that an element gives. -/
def kicker? (dispatch : Dispatch) : Option String :=
  match dispatch.rule with
  | .headerKicker _ => some (Text.trim dispatch.place.textContent)
  | _ => none

end Dispatch

/-- Of the titles that elements give the last one counts, and so for kickers. -/
def lastWords (dispatched : List Dispatch) : Header where
  title := (dispatched.filterMap Dispatch.title?).getLast?
  kicker := (dispatched.filterMap Dispatch.kicker?).getLast?

/-- Later elements take precedence over earlier ones. -/
theorem lastWords_append (earlier later : List Dispatch) (header : Header) :
    (lastWords (earlier ++ later)).covering header =
      (lastWords later).covering ((lastWords earlier).covering header) := by
  simp only [lastWords, Header.covering, List.filterMap_append, List.getLast?_append, Option.or_assoc]

/-- The result is the header with the last title and the last kicker that elements give, or the error of the
first requirement that one of them does not meet. -/
def SetsLast (dispatched : List Dispatch) (header : Header) (result : Except Error Element) : Prop :=
  Checks (dispatched.flatMap Dispatch.requirements) result
    (.header ((lastWords dispatched).covering header))

namespace SetsLast

variable {earlier later : List Dispatch} {header : Header} {context : Element}
  {result : Except Error Element} {error : Error}

theorem nil (header : Header) : SetsLast [] header (.ok (.header header)) :=
  Checks.pure (Element.header header)

/-- Later elements start from the header that earlier ones gave back. -/
theorem append (first : SetsLast earlier header (.ok context))
    (second : ∀ next, context = .header next → SetsLast later next result) :
    SetsLast (earlier ++ later) header result := by
  obtain ⟨_, same⟩ := (Checks.eq_ok_iff first).1 rfl
  rw [SetsLast, List.flatMap_append, lastWords_append]
  exact Checks.passed first (second _ same)

theorem stopped (first : SetsLast earlier header (.error error)) :
    SetsLast (earlier ++ later) header (.error error) := by
  rw [SetsLast, List.flatMap_append]
  exact Checks.stopped first

/-- To pass through an element sets nothing. -/
theorem cons_passThrough {rule : Rule} {place : Place} (passes : rule.isPassThrough = true)
    (below : SetsLast later header result) : SetsLast (⟨rule, place⟩ :: later) header result := by
  cases rule with
  | passThrough pattern kind => exact below
  | metadata | header | headerTitle | headerKicker | interactive | video | caption | ignore | host =>
      cases passes

end SetsLast

namespace Responds

variable {rules : List Rule} {header : Header} {place : Place} {rule : Rule} {result : Except Error Element}
  {planned : Except Error Plan}

theorem dispatchesAt_eq (response : Responds rules (.header header) place rule planned) :
    dispatchesAt rules .header place =
      ⟨rule, place⟩ :: if rule.isPassThrough then dispatches rules .header place else [] := by
  have matched : Rule.findMatch rules .header place = some rule := response.matched
  simp only [dispatchesAt, response.visible, matched, Bool.false_eq_true, if_false]

/-- In a header a rule passes through, or it sets what it gives as soon as the requirements are met. -/
theorem in_header (builtIn : Rule.AllBuiltIn rules)
    (response : Responds rules (.header header) place rule planned) :
    (rule.isPassThrough = true ∧ planned = .ok (.below (.header header) .ok)) ∨
      (rule.isPassThrough = false ∧ ∃ outcome : Except Error Element,
        planned = outcome.map Plan.done ∧ SetsLast [⟨rule, place⟩] header outcome) := by
  obtain ⟨visible, matched, rfl⟩ := response
  have kind := (Rule.matchesAt_of_findMatch matched).1
  have library := builtIn rule (Rule.mem_of_findMatch matched)
  cases rule with
  | metadata | header | interactive | video => cases kind
  | host => cases library
  | passThrough pattern context => exact Or.inl ⟨rfl, rfl⟩
  | headerTitle pattern =>
      refine Or.inr ⟨rfl, _, ?_, (header.setTitle_checks place.textContent).map Element.header⟩
      rw [Rule.plan_headerTitle]
      cases header.setTitle place.textContent <;> rfl
  | headerKicker pattern =>
      refine Or.inr ⟨rfl, _, ?_, (header.setKicker_checks place.textContent).map Element.header⟩
      rw [Rule.plan_headerKicker]
      cases header.setKicker place.textContent <;> rfl
  | ignore pattern context => exact Or.inr ⟨rfl, .ok (.header header), rfl, .nil header⟩
  | caption pattern context =>
      refine Or.inr ⟨rfl, .error (pattern.captionError place), ?_, Checks.refused id _⟩
      rw [Rule.plan, Pattern.captionError]
      cases pattern.buildCaption place <;> rfl

theorem setsLast (builtIn : Rule.AllBuiltIn rules)
    (response : Responds rules (.header header) place rule (result.map Plan.done)) :
    SetsLast (dispatchesAt rules .header place) header result := by
  rw [response.dispatchesAt_eq]
  obtain ⟨_, descends⟩ | ⟨stays, outcome, plans, sets⟩ := response.in_header builtIn
  · cases result <;> cases descends
  · obtain rfl : result = outcome := by
      cases result <;> cases outcome <;> cases plans <;> rfl
    rw [stays]
    exact sets

theorem passesThrough {inner : Element} {finish : Element → Except Error Element}
    (builtIn : Rule.AllBuiltIn rules)
    (response : Responds rules (.header header) place rule (.ok (.below inner finish))) :
    inner = .header header ∧ finish = .ok ∧ ∀ result,
      SetsLast (dispatches rules .header place) header result →
        SetsLast (dispatchesAt rules .header place) header result := by
  rw [response.dispatchesAt_eq]
  obtain ⟨passes, plans⟩ | ⟨_, outcome, plans, _⟩ := response.in_header builtIn
  · cases plans
    rw [passes]
    exact ⟨rfl, rfl, fun _ => .cons_passThrough passes⟩
  · cases outcome <;> cases plans

end Responds

section header

variable {rules : List Rule} {limit depth : Nat} {header : Header} {warnings : List Warning}
  {result : Except Error Element}

/-- With room for the tallest of the places, visits in a header go through all dispatched elements. -/
theorem Visits.setsLast {places : List Place} {context : Element} (builtIn : Rule.AllBuiltIn rules)
    (fits : depth + Place.tallest places ≤ limit)
    (visits : Visits rules limit depth places context warnings result)
    (start : context = Element.header header) :
    SetsLast (places.flatMap (dispatchesAt rules .header)) header result := by
  induction visits generalizing header with
  | finished =>
      subst start
      exact .nil header
  | skipped skippable later ih =>
      rw [List.flatMap_cons, dispatchesAt_skipped skippable]
      exact ih (Place.tallest_fits_tail fits) start
  | reported visible unmatched later ih =>
      subst start
      rw [List.flatMap_cons, show dispatchesAt rules .header _ = [] from dispatchesAt_unmatched unmatched]
      exact ih (Place.tallest_fits_tail fits) rfl
  | refused response =>
      subst start
      exact .stopped (Responds.setsLast builtIn response)
  | changed response later ih =>
      subst start
      exact .append (Responds.setsLast builtIn response) fun _ => ih (Place.tallest_fits_tail fits)
  | cut response deep =>
      -- The rule matches an element, and there is room for what is below it.
      rw [Place.tallest_cons_of_element response.isElement] at fits
      omega
  | failedBelow response room below ih =>
      subst start
      rw [Place.tallest_cons_of_element response.isElement] at fits
      obtain ⟨rfl, rfl, passes⟩ := response.passesThrough builtIn
      rw [← dispatches_eq_flatMap] at ih
      exact (passes _ (ih (by omega) rfl)).stopped
  | refusedAfter response room below refusal ih =>
      subst start
      obtain ⟨rfl, rfl, _⟩ := response.passesThrough builtIn
      cases refusal
  | completed response room below finishes later ihBelow ihLater =>
      subst start
      rw [Place.tallest_cons_of_element response.isElement] at fits
      obtain ⟨rfl, rfl, passes⟩ := response.passesThrough builtIn
      cases finishes
      rw [← dispatches_eq_flatMap] at ihBelow
      exact (passes _ (ihBelow (by omega) rfl)).append fun _ => ihLater (by omega)
  | hostFailed response | hostEnded response => exact (response.not_hosted builtIn).elim

/-- With room for the height of the place, a walk in a header goes through all dispatched elements. -/
theorem Walks.setsLast {place : Place} (builtIn : Rule.AllBuiltIn rules)
    (fits : depth + place.node.height ≤ limit)
    (walks : Walks rules limit depth place (.header header) warnings result) :
    SetsLast (dispatches rules .header place) header result := by
  rw [place.height_eq] at fits
  cases walks with
  | cut deep => omega
  | entered room visits =>
      rw [dispatches_eq_flatMap]
      exact visits.setsLast builtIn (by omega) rfl

/-- Whatever the limit is, a walk in a header that succeeds has gone through all dispatched elements. -/
theorem Walks.setsLast_of_ok {place : Place} {element : Element} (builtIn : Rule.AllBuiltIn rules)
    (walks : Walks rules limit depth place (.header header) warnings (.ok element)) :
    SetsLast (dispatches rules .header place) header (.ok element) := by
  -- A walk that succeeds is not cut short, so it has the same course with room for the height.
  have within := Nat.le_max_left limit (depth + place.node.height)
  obtain same | ⟨cut, _⟩ := walks.with_larger_limit builtIn within
  · exact same.setsLast builtIn (Nat.le_max_right _ _)
  · cases cut

end header

namespace Converter

/-- The conversion of a header. With room for the height of the node, a transformation over rules of the library
succeeds if all requirements of the dispatched elements are met. It gives back the header with the last title
and the last kicker among them, and otherwise the error of the first requirement that is not met. A rule for
headers that succeeds merges these into the header of the article in the same way, and changes nothing else. -/
theorem transform_header (converter : Converter) (builtIn : Rule.AllBuiltIn converter.rules)
    (place : Place) :
    ((dispatches converter.rules .header place).map Dispatch.place).Sublist place.descendants ∧
    (∀ header, converter.state.depth + place.node.height ≤ converter.maxDepth →
      (∀ element, (converter.transform (.header header) place).1 = .ok element ↔
        AllMet ((dispatches converter.rules .header place).flatMap Dispatch.requirements) ∧
          element = .header ((lastWords (dispatches converter.rules .header place)).covering header)) ∧
      ∀ error, (converter.transform (.header header) place).1 = .error error ↔
        FirstUnmet ((dispatches converter.rules .header place).flatMap Dispatch.requirements) error) ∧
    ∀ pattern article next,
      (converter.applyRule (.header pattern) (.article article) place).1 = .ok next →
        next = .article { article with
          header := some ((lastWords (dispatches converter.rules .header place)).covering
            (article.header.getD {})) } := by
  refine ⟨dispatches_sublist converter.rules .header place, ?_, ?_⟩
  · intro header fits
    obtain ⟨warnings, result, walks, transforms⟩ := converter.transform_walks (.header header) place
    rw [transforms]
    have sets := walks.setsLast builtIn fits
    exact ⟨fun element => Checks.eq_ok_iff sets, fun error => Checks.eq_error_iff sets⟩
  · intro pattern article next succeeded
    rw [applyRule_below (Rule.plan_header pattern article place)] at succeeded
    obtain ⟨inner, transformed, finished⟩ := Except.bind_eq_ok succeeded
    obtain ⟨warnings, result, walks, transforms⟩ :=
      converter.transform_walks (.header (article.header.getD {})) place
    rw [transforms] at transformed
    cases transformed
    obtain ⟨_, rfl⟩ := (Checks.eq_ok_iff (walks.setsLast_of_ok builtIn)).1 rfl
    cases finished
    rfl

end Converter

/-- A title, and a box with two more titles, of which one is blank. -/
def Node.titles : Node :=
  .document [.element ⟨"", "title", []⟩ [.text " First "],
    .element ⟨"", "box", []⟩ [.element ⟨"", "title", []⟩ [.text "Second"],
      .element ⟨"", "rest", []⟩ [.element ⟨"", "title", []⟩ [.text " "]]]]

namespace Converter

/-- Titles are titles of the header, and boxes are passed through. -/
def titling : Converter :=
  { rules := [.headerTitle ⟨.css "title" [.compound [.type (.of "title")]], []⟩,
      .passThrough ⟨.css "box" [.compound [.type (.of "box")]], []⟩ .header] }

/-- The blank title is below an element that no rule is dispatched for. -/
theorem transform_header_titles :
    Rule.AllBuiltIn titling.rules ∧
      titling.state.depth + (Place.root .titles).node.height ≤ titling.maxDepth ∧
      (dispatches titling.rules .header (.root .titles)).map (·.place.path) = [[0], [1], [1, 0]] ∧
      AllMet ((dispatches titling.rules .header (.root .titles)).flatMap Dispatch.requirements) ∧
      (titling.transform (.header { kicker := some "Kicker" }) (.root .titles)).1 =
        .ok (.header { title := some "Second", kicker := some "Kicker" }) ∧
      (titling.applyRule (.header ⟨.itself, []⟩) (.article { charset := some "utf-8" })
        (.root .titles)).1 =
        .ok (.article { charset := some "utf-8",
                        header := some (lastWords (dispatches titling.rules .header (.root .titles))) }) := by
  have builtIn : Rule.AllBuiltIn titling.rules := by decide
  have room : titling.state.depth + (Place.root .titles).node.height ≤ titling.maxDepth := by decide
  have succeeded : (titling.transform (.header { kicker := some "Kicker" }) (.root .titles)).1 =
      .ok (.header { title := some "Second", kicker := some "Kicker" }) := rfl
  have applied : (titling.applyRule (.header ⟨.itself, []⟩) (.article { charset := some "utf-8" })
      (.root .titles)).1 =
      .ok (.article { charset := some "utf-8", header := some { title := some "Second" } }) := rfl
  obtain ⟨_, transforms, merges⟩ := transform_header titling builtIn (.root .titles)
  have met := ((transforms { kicker := some "Kicker" } room).1 _).1 succeeded
  have merged := merges ⟨.itself, []⟩ { charset := some "utf-8" } _ applied
  exact ⟨builtIn, room, rfl, met.1, succeeded, applied.trans (congrArg Except.ok merged)⟩

end Converter

end ArticleRules
