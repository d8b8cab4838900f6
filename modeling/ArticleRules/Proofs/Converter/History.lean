import ArticleRules.Proofs.Walk.Limit
import ArticleRules.Proofs.Walk.Steady
import ArticleRules.RuleSet.Catalog

/-
This file follows a converter through any sequence of operations. Whatever came before, a walk ends as it
would in a fresh converter, and every warning is handed out once or still held.
-/

namespace ArticleRules

/-- What can be done with a converter. -/
inductive Operation where
  | addRule (rule : Rule)
  | register (rules : RuleSet) (catalog : RuleCatalog) (table : GetterTable)
  | transform (context : Element) (place : Place)
  | transformDocument (context : Element) (tree : Node)
  | convert (context : Element) (place : Place)
  | convertDocument (context : Element) (tree : Node)
  | applyRule (rule : Rule) (context : Element) (place : Place)
  | takeWarnings

/-- What comes back from an operation. -/
inductive Answer where
  | registered (result : Except Error Unit)
  | walked (result : Except Error Element)
  | converted (result : Except Error (Element × List Warning))
  | taken (warnings : List Warning)

namespace Answer

/-- How the walk of the operation ended, if it walked. -/
def element? : Answer → Option (Except Error Element)
  | walked result => some result
  | converted result => some (result.map Prod.fst)
  | registered _ | taken _ => none

/-- The warnings that come back. A failed conversion hands out none. -/
def handedOut : Answer → List Warning
  | converted (.ok (_, warnings)) => warnings
  | taken warnings => warnings
  | converted (.error _) | registered _ | walked _ => []

end Answer

/-- A converter with the same rules and the same limit that has not been used. -/
def Converter.fresh (converter : Converter) : Converter :=
  converter.fork converter.maxDepth

namespace Operation

def run (operation : Operation) (converter : Converter) : Answer × Converter :=
  match operation with
  | addRule rule => (.registered (.ok ()), converter.addRule rule)
  | register rules catalog table =>
    match converter.register rules catalog table with
    | .ok extended => (.registered (.ok ()), extended)
    | .error error => (.registered (.error error), converter)
  | transform context place => (converter.transform context place).map .walked id
  | transformDocument context tree => (converter.transformDocument context tree).map .walked id
  | convert context place => (converter.convert context place).map .converted id
  | convertDocument context tree => (converter.convertDocument context tree).map .converted id
  | applyRule rule context place => (converter.applyRule rule context place).map .walked id
  | takeWarnings => converter.takeWarnings.map .taken id

/-- The rules that an operation adds. Walks add none, and neither does a rule set with a bad entry. -/
def adds : Operation → List Rule
  | addRule rule => [rule]
  | register rules catalog table =>
    match rules.rules.mapM (catalog.build · table) with
    | .ok built => built
    | .error _ => []
  | transform _ _ | transformDocument _ _ | convert _ _ | convertDocument _ _ => []
  | applyRule _ _ _ | takeWarnings => []

/-- The warnings that an operation records when it is done with a fresh converter, handed out or held. -/
def recorded (operation : Operation) (converter : Converter) : List Warning :=
  let (answer, after) := operation.run converter.fresh
  answer.handedOut ++ after.warnings

/-- One operation leaves an idle converter idle, with the same limit and the rules that it adds. It answers as
with a fresh converter, and what it hands out and leaves there is what was held and what it records. -/
structure Keeps (operation : Operation) (converter : Converter) : Prop where
  idle : (operation.run converter).2.state.depth = 0
  limit : (operation.run converter).2.maxDepth = converter.maxDepth
  rules : (operation.run converter).2.rules = converter.rules ++ operation.adds
  answer : (operation.run converter).1.element? = (operation.run converter.fresh).1.element?
  balance : (operation.run converter).1.handedOut ++ (operation.run converter).2.warnings =
    converter.warnings ++ operation.recorded converter

/-- An answer delivers how a walk ended. The warnings held after the walk are handed out or stay. -/
structure Delivers (outcome : Except Error Element × Converter) (answered : Answer × Converter) :
    Prop where
  depth : answered.2.state.depth = outcome.2.state.depth
  limit : answered.2.maxDepth = outcome.2.maxDepth
  rules : answered.2.rules = outcome.2.rules
  element : answered.1.element? = some outcome.1
  warnings : answered.1.handedOut ++ answered.2.warnings = outcome.2.warnings

theorem Delivers.walked (outcome : Except Error Element × Converter) :
    Delivers outcome (outcome.map .walked id) :=
  ⟨rfl, rfl, rfl, rfl, rfl⟩

/-- A conversion delivers a transformation. -/
theorem Delivers.converted (converter : Converter) (context : Element) (place : Place) :
    Delivers (converter.transform context place)
      ((converter.convert context place).map .converted id) := by
  rw [Converter.convert]
  obtain ⟨result, after⟩ := converter.transform context place
  cases result with
  | error error => exact ⟨rfl, rfl, rfl, rfl, rfl⟩
  | ok element => exact ⟨rfl, rfl, rfl, rfl, List.append_nil after.warnings⟩

section Keeps

variable {operation : Operation} {converter : Converter} {walk : Walk Element}

/-- An operation keeps all of this if it delivers how a steady walk ends, there and in a fresh converter. -/
theorem keeps_of_walk (idle : converter.state.depth = 0) (steady : walk.Steady 0)
    (unchanged : operation.adds = [])
    (delivers : Delivers (converter.run walk) (operation.run converter))
    (deliversFresh : Delivers (converter.fresh.run walk) (operation.run converter.fresh)) :
    operation.Keeps converter := by
  obtain ⟨result, warnings, ends⟩ := Converter.run_of_steady steady
  rw [ends converter idle] at delivers
  rw [ends converter.fresh rfl] at deliversFresh
  constructor
  case idle =>
      rw [delivers.depth]
      exact idle
  case limit =>
      rw [delivers.limit]
      rfl
  case rules =>
      rw [delivers.rules, unchanged, List.append_nil]
      rfl
  case answer => rw [delivers.element, deliversFresh.element]
  case balance =>
      have recorded : operation.recorded converter = [] ++ warnings := deliversFresh.warnings
      rw [delivers.warnings, recorded]
      rfl

/-- Rules are added without a walk. -/
theorem keeps_of_rules {rules : List Rule} (idle : converter.state.depth = 0)
    (adds : operation.adds = rules) {result : Except Error Unit}
    (runs : ∀ other : Converter, operation.run other = (.registered result, other.addRules rules)) :
    operation.Keeps converter := by
  constructor
  case idle =>
      rw [runs]
      exact idle
  case limit =>
      rw [runs]
      rfl
  case rules =>
      rw [runs, adds]
      rfl
  case answer => rw [runs, runs]
  case balance =>
      rw [recorded, runs, runs]
      exact (List.append_nil converter.warnings).symm

end Keeps

/-- A rule set registers what it builds, or nothing. -/
theorem run_register (rules : RuleSet) (catalog : RuleCatalog) (table : GetterTable) :
    ∃ result, ∀ converter : Converter, (register rules catalog table).run converter =
      (.registered result, converter.addRules (register rules catalog table).adds) := by
  cases built : rules.rules.mapM (catalog.build · table) with
  | error error =>
      refine ⟨.error error, fun converter => ?_⟩
      simp only [run, adds, Converter.register, built, Except.error_bind, Converter.addRules,
        List.append_nil]
  | ok extension =>
      refine ⟨.ok (), fun converter => ?_⟩
      simp only [run, adds, Converter.register, built, Except.ok_bind]
      rfl

/-- Every operation on an idle converter keeps all of this. -/
theorem keeps (operation : Operation) {converter : Converter} (idle : converter.state.depth = 0) :
    operation.Keeps converter := by
  have below (context : Element) (place : Place) : (converter.walk context place).Steady 0 :=
    .walkBelow converter.rules converter.maxDepth context place
  cases operation with
  | addRule rule => exact keeps_of_rules idle rfl fun _ => rfl
  | register rules catalog table =>
      obtain ⟨result, runs⟩ := run_register rules catalog table
      exact keeps_of_rules idle rfl runs
  | transform context place => exact keeps_of_walk idle (below context place) rfl (.walked _) (.walked _)
  | transformDocument context tree =>
      exact keeps_of_walk idle (below context (.root tree)) rfl (.walked _) (.walked _)
  | convert context place =>
      exact keeps_of_walk idle (below context place) rfl (.converted ..) (.converted ..)
  | convertDocument context tree =>
      exact keeps_of_walk idle (below context (.root tree)) rfl (.converted ..) (.converted ..)
  | applyRule rule context place =>
      have steady := Walk.Steady.apply below rule context place
      exact keeps_of_walk idle steady rfl (.walked _) (.walked _)
  | takeWarnings => exact ⟨idle, rfl, (List.append_nil _).symm, rfl, rfl⟩

end Operation

namespace Converter

/-- The converter after a sequence of operations. -/
def after (converter : Converter) : List Operation → Converter
  | [] => converter
  | operation :: rest => (operation.run converter).2.after rest

/-- All warnings that a sequence of operations hands out. -/
def handedOut (converter : Converter) : List Operation → List Warning
  | [] => []
  | operation :: rest =>
    (operation.run converter).1.handedOut ++ (operation.run converter).2.handedOut rest

/-- All warnings that the operations of a sequence record, each with a fresh converter that has the rules and
the limit of its time. -/
def recorded (converter : Converter) : List Operation → List Warning
  | [] => []
  | operation :: rest => operation.recorded converter ++ (operation.run converter).2.recorded rest

section history

variable {converter : Converter}

theorem after_idle (idle : converter.state.depth = 0) (history : List Operation) :
    (converter.after history).state.depth = 0 := by
  induction history generalizing converter with
  | nil => exact idle
  | cons operation rest ih => exact ih (operation.keeps idle).idle

theorem after_maxDepth (idle : converter.state.depth = 0) (history : List Operation) :
    (converter.after history).maxDepth = converter.maxDepth := by
  induction history generalizing converter with
  | nil => rfl
  | cons operation rest ih =>
      have kept := operation.keeps idle
      exact (ih kept.idle).trans kept.limit

theorem after_rules (idle : converter.state.depth = 0) (history : List Operation) :
    (converter.after history).rules = converter.rules ++ history.flatMap Operation.adds := by
  induction history generalizing converter with
  | nil => exact (List.append_nil _).symm
  | cons operation rest ih =>
      have kept := operation.keeps idle
      rw [after, ih kept.idle, kept.rules, List.flatMap_cons, List.append_assoc]

/-- Over a sequence of operations the warnings handed out and those left are the warnings held at the start
and those recorded since, in this order. -/
theorem handedOut_append_held (idle : converter.state.depth = 0) (history : List Operation) :
    converter.handedOut history ++ (converter.after history).warnings =
      converter.warnings ++ converter.recorded history := by
  induction history generalizing converter with
  | nil => exact (List.append_nil _).symm
  | cons operation rest ih =>
      have kept := operation.keeps idle
      calc
        converter.handedOut (operation :: rest) ++ (converter.after (operation :: rest)).warnings
          = (operation.run converter).1.handedOut ++
              ((operation.run converter).2.handedOut rest ++
                ((operation.run converter).2.after rest).warnings) := List.append_assoc ..
        _ = (operation.run converter).1.handedOut ++
              ((operation.run converter).2.warnings ++ (operation.run converter).2.recorded rest) := by
          rw [ih kept.idle]
        _ = converter.warnings ++ operation.recorded converter ++
              (operation.run converter).2.recorded rest := by rw [← List.append_assoc, kept.balance]
        _ = converter.warnings ++ converter.recorded (operation :: rest) := List.append_assoc ..

/-- A failed conversion keeps the warnings held before it and those that its walk records. -/
theorem convert_held_of_error (idle : converter.state.depth = 0) {context : Element} {place : Place}
    {error : Error} (failed : (converter.convert context place).1 = .error error) :
    (converter.convert context place).2.warnings =
      converter.warnings ++ (converter.fresh.transform context place).2.warnings := by
  obtain ⟨result, warnings, ends⟩ :=
    run_of_steady (.walkBelow converter.rules converter.maxDepth context place)
  have transforms : converter.transform context place = (result, _) := ends converter idle
  have transformsFresh : converter.fresh.transform context place = (result, _) :=
    ends converter.fresh rfl
  rw [convert, transforms] at failed ⊢
  rw [transformsFresh]
  cases result with
  | error error => rfl
  | ok element => cases failed

end history

/-- A converter survives any sequence of operations. Afterwards it is idle, with the same limit, and its rules
are those from the start and those registered since. Whatever operation comes next, its walk ends as in a
fresh converter with these rules and this limit. No warning is lost or comes twice: those handed out so far
and those still held are those held at the start and those that each walk records in such a fresh converter.
In particular a failed conversion hands out nothing, and keeps older warnings and those before the failure. -/
theorem survives_history (converter : Converter) (idle : converter.state.depth = 0)
    (history : List Operation) :
    (converter.after history).state.depth = 0 ∧
    (converter.after history).maxDepth = converter.maxDepth ∧
    (converter.after history).rules = converter.rules ++ history.flatMap Operation.adds ∧
    (∀ operation : Operation, (operation.run (converter.after history)).1.element? =
      (operation.run (converter.after history).fresh).1.element?) ∧
    converter.handedOut history ++ (converter.after history).warnings =
      converter.warnings ++ converter.recorded history ∧
    ∀ context place error, ((converter.after history).convert context place).1 = .error error →
      ((Operation.convert context place).run (converter.after history)).1.handedOut = [] ∧
      ((converter.after history).convert context place).2.warnings =
        (converter.after history).warnings ++
          ((converter.after history).fresh.transform context place).2.warnings := by
  have idleAfter := after_idle idle history
  refine ⟨idleAfter, after_maxDepth idle history, after_rules idle history,
    fun operation => (operation.keeps idleAfter).answer, handedOut_append_held idle history, ?_⟩
  intro context place error failed
  refine ⟨?_, convert_held_of_error idleAfter failed⟩
  rw [Operation.run, Prod.map_fst, failed]
  rfl

end Converter

/-- A conversion that fails for its depth, and the same once more after what is too deep is ignored. -/
def Operation.retrying : List Operation :=
  [.convert (.article {}) (.root .textAndBoxes), .addRule (.ignore ⟨.itself, []⟩ .article),
    .convert (.article {}) (.root .textAndBoxes)]

/-- The first conversion reports the text and fails, and the second one hands out both reports. -/
theorem Converter.survives_history_retrying :
    (heading.limitedTo 1).state.depth = 0 ∧
      ((heading.limitedTo 1).convert (.article {}) (.root .textAndBoxes)).1 =
        .error (.depthExceeded 1) ∧
      ((heading.limitedTo 1).after Operation.retrying).warnings = [] ∧
      (heading.limitedTo 1).handedOut Operation.retrying =
        (heading.limitedTo 1).recorded Operation.retrying ∧
      ((heading.limitedTo 1).handedOut Operation.retrying).map (·.place.path) = [[0], [0]] ∧
      ((heading.limitedTo 1).after (Operation.retrying.take 1)).warnings.map (·.place.path) = [[0]] := by
  have survived := survives_history (heading.limitedTo 1) rfl Operation.retrying
  have balance := survived.2.2.2.2.1
  rw [show ((heading.limitedTo 1).after Operation.retrying).warnings = [] from rfl,
    show (heading.limitedTo 1).warnings = [] from rfl, List.append_nil, List.nil_append] at balance
  exact ⟨rfl, rfl, rfl, balance, rfl, rfl⟩

end ArticleRules
