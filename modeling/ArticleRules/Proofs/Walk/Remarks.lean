import ArticleRules.Proofs.Rule.Action
import ArticleRules.Proofs.Rule.Remarks
import ArticleRules.Proofs.Walk.Visits

/-
This file compares a walk over a tree with the walk over the tree without its remarks. A remark is passed
over, and at every other place the same rule answers with the same plan, so the two walks have one course.
-/

namespace ArticleRules

/-- The warning that is given for the same node in the tree without remarks. Only the surroundings of the
node and its markup differ. -/
def Warning.withoutRemarks (warning : Warning) : Warning :=
  { warning with place := warning.place.withoutRemarks, markup := warning.place.withoutRemarks.markup }

theorem Warning.unrecognized_withoutRemarks (context : Element) (place : Place) (depth : Nat) :
    (unrecognized context place depth).withoutRemarks =
      unrecognized context place.withoutRemarks depth := by
  rw [withoutRemarks, unrecognized, unrecognized]
  congr 1
  exact place.node.name_withoutRemarks.symm

namespace Place

variable {tree : Node} {place : Place} {rest : List Place}

/-- All of the places but remarks remain when remarks are left out of the tree. -/
def AllRemain (tree : Node) (places : List Place) : Prop :=
  ∀ place ∈ places, place.node.isRemark = false → Remains tree place

theorem AllRemain.tail (remain : AllRemain tree (place :: rest)) : AllRemain tree rest :=
  fun other member => remain other (List.mem_cons_of_mem _ member)

theorem AllRemain.head (remain : AllRemain tree (place :: rest))
    (visible : place.node.isSkippable = false) : Remains tree place :=
  remain place List.mem_cons_self (Node.isRemark_of_visible visible)

theorem Remains.children (remains : Remains tree place) : AllRemain tree place.children :=
  fun _ => remains.of_mem_children

end Place

section Remains

open Place

variable {tree : Node} {rules : List Rule} {limit depth : Nat} {context : Element}
  {warnings : List Warning} {result : Except Error Element}

/-- Visits to the places that remain have the same course in the tree without remarks. -/
theorem Visits.withoutRemarks {places : List Place} (builtIn : Rule.AllBuiltIn rules)
    (reads : ∀ rule ∈ rules, rule.ReadsContent) (remain : AllRemain tree places)
    (visits : Visits rules limit depth places context warnings result) :
    Visits rules limit depth (remaining places) context (warnings.map Warning.withoutRemarks)
      result := by
  induction visits with
  | finished => exact .finished
  | skipped skippable later ih =>
      -- A remark is gone, and blank text is passed over once more.
      have later := ih remain.tail
      cases kept : Node.isRemark _ with
      | true => rwa [remaining_cons_remark kept]
      | false =>
          rw [remaining_cons kept]
          exact .skipped ((Node.isSkippable_withoutRemarks _).trans skippable) later
  | reported visible unmatched later ih =>
      have remains := remain.head visible
      rw [remaining_cons remains.isRemark_eq, List.map_cons, Warning.unrecognized_withoutRemarks]
      refine .reported ((Node.isSkippable_withoutRemarks _).trans visible) ?_ (ih remain.tail)
      rwa [Rule.findMatch_withoutRemarks remains]
  | refused response =>
      have remains := remain.head response.visible
      rw [remaining_cons remains.isRemark_eq]
      exact .refused (response.withoutRemarks builtIn reads remains)
  | changed response later ih =>
      have remains := remain.head response.visible
      rw [remaining_cons remains.isRemark_eq]
      exact .changed (response.withoutRemarks builtIn reads remains) (ih remain.tail)
  | cut response deep =>
      have remains := remain.head response.visible
      rw [remaining_cons remains.isRemark_eq]
      exact .cut (response.withoutRemarks builtIn reads remains) deep
  | failedBelow response room below ih =>
      have remains := remain.head response.visible
      have below := ih remains.children
      rw [← children_withoutRemarks] at below
      rw [remaining_cons remains.isRemark_eq]
      exact .failedBelow (response.withoutRemarks builtIn reads remains) room below
  | refusedAfter response room below refusal ih =>
      have remains := remain.head response.visible
      have below := ih remains.children
      rw [← children_withoutRemarks] at below
      rw [remaining_cons remains.isRemark_eq]
      exact .refusedAfter (response.withoutRemarks builtIn reads remains) room below refusal
  | completed response room below finishes later ihBelow ihLater =>
      have remains := remain.head response.visible
      have below := ihBelow remains.children
      rw [← children_withoutRemarks] at below
      rw [remaining_cons remains.isRemark_eq, List.map_append]
      exact .completed (response.withoutRemarks builtIn reads remains) room below finishes
        (ihLater remain.tail)
  | hostFailed response | hostEnded response => exact (response.not_hosted builtIn).elim

theorem Walks.withoutRemarks {place : Place} (builtIn : Rule.AllBuiltIn rules)
    (reads : ∀ rule ∈ rules, rule.ReadsContent) (remains : Remains tree place)
    (walks : Walks rules limit depth place context warnings result) :
    Walks rules limit depth place.withoutRemarks context (warnings.map Warning.withoutRemarks)
      result := by
  cases walks with
  | cut deep => exact .cut deep
  | entered room visits =>
      refine .entered room ?_
      rw [children_withoutRemarks]
      exact visits.withoutRemarks builtIn reads remains.children

end Remains

namespace Converter

/-- Remarks are transparent. Take any tree, any of its nodes that is no remark, and rules of the library whose
properties look at content only. Then the node has its place in the tree without remarks, and the two
transformations that start there give the same element or the same error. They add as many warnings, in
the same order, each with the same context, node name and depth as its counterpart. -/
theorem transform_withoutRemarks (converter : Converter) (builtIn : Rule.AllBuiltIn converter.rules)
    (reads : ∀ rule ∈ converter.rules, rule.ReadsContent) {tree : Node} {steps : List Nat}
    {place : Place} (found : (Place.root tree).descend? steps = some place)
    (kept : place.node.isRemark = false) (context : Element) :
    (Place.root tree.withoutRemarks).descend? place.withoutRemarks.path = some place.withoutRemarks ∧
      ∃ warnings,
        converter.transform context place =
          ((converter.transform context place).1, converter.record warnings) ∧
        converter.transform context place.withoutRemarks =
          ((converter.transform context place).1,
            converter.record (warnings.map Warning.withoutRemarks)) := by
  have remains := Place.Remains.of_path found kept
  refine ⟨remains.counterpart.descend?_path, ?_⟩
  obtain ⟨warnings, result, walks, transforms⟩ := converter.transform_walks context place
  rw [transforms]
  exact ⟨warnings, rfl, transform_eq_of_walks (walks.withoutRemarks builtIn reads remains)⟩

end Converter

/-- A document type, and a figure that holds a remark before a frame and some text. -/
def Node.remarked : Node :=
  .document [.doctype "html",
    .element ⟨Namespace.html, "figure", []⟩
      [.comment "player", .element ⟨Namespace.html, "iframe", [⟨none, "", "src", "/clip"⟩]⟩ [],
        .text "stray"]]

/-- Every element in an article becomes an interactive element with the address of the frame that comes
first in it, and the walk goes on below it. -/
def Converter.framing : Converter :=
  { rules := [.interactive ⟨.itself,
      [⟨PropertyName.url, ⟨"attribute", Extraction.attributeValue, true⟩,
          .css "iframe:first-child" [.compound [.type (.of "iframe"), .positioned ⟨false, false⟩ ⟨0, 1⟩]],
          some "src"⟩,
        ⟨PropertyName.interactiveCaption, ⟨"exists", Extraction.presence, false⟩, .itself, none⟩]⟩] }

/-- The frame is the first element of the figure with and without the remark, and both nodes that are
reported move by one place. -/
theorem Converter.transform_withoutRemarks_figure :
    Rule.AllBuiltIn framing.rules ∧ (∀ rule ∈ framing.rules, rule.ReadsContent) ∧
      Node.remarked.isRemark = false ∧
      ∃ warnings,
        framing.transform (.article {}) (.root .remarked) =
          (.ok (.article { children :=
              [.interactive { source := some "/clip", width := some .noMargin }] }),
            framing.record warnings) ∧
        framing.transform (.article {}) (.root Node.remarked.withoutRemarks) =
          (.ok (.article { children :=
              [.interactive { source := some "/clip", width := some .noMargin }] }),
            framing.record (warnings.map Warning.withoutRemarks)) ∧
        warnings.map (·.place.path) = [[1, 1], [1, 2]] ∧
        (warnings.map Warning.withoutRemarks).map (·.place.path) = [[0, 0], [0, 1]] := by
  have builtIn : Rule.AllBuiltIn framing.rules := by decide
  have reads : ∀ rule ∈ framing.rules, rule.ReadsContent := by
    intro rule member pattern ofRule property among
    obtain rfl := List.mem_singleton.1 member
    cases ofRule
    simp only [List.mem_cons, List.not_mem_nil, or_false] at among
    obtain rfl | rfl := among
    · exact ⟨⟨"attribute", by decide, rfl⟩, by decide⟩
    · exact ⟨⟨"exists", by decide, rfl⟩, by decide⟩
  have converted : (framing.transform (.article {}) (.root .remarked)).1 =
      .ok (.article { children :=
        [.interactive { source := some "/clip", width := some .noMargin }] }) := rfl
  obtain ⟨_, warnings, here, there⟩ := transform_withoutRemarks framing builtIn reads
    (Place.descend?_nil (.root .remarked)) rfl (.article {})
  rw [converted] at here there
  have paths := congrArg (fun outcome => outcome.2.warnings.map (·.place.path)) here
  have pathsToo := congrArg (fun outcome => outcome.2.warnings.map (·.place.path)) there
  exact ⟨builtIn, reads, rfl, warnings, here, there, paths.symm, pathsToo.symm⟩

end ArticleRules
