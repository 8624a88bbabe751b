import Mathlib.Data.List.Forall2
import Splice.Proofs.Dispatch
import Splice.Proofs.Document.Substitution
import Splice.Render

/-! # The course of a rendering

A rendering visits the placeholders of its document in order, each in the state that the one before
left. `render?_eq_some_iff` reads a rendering as such a course, the fast path for a document without
placeholders included, and `substitute?_report` reads its output as the document with the
placeholders replaced.
-/

namespace Splice

/-- The visit of a placeholder: the state it was found in, and the step that dispatched it. -/
structure Visit where
  placeholder : Document.Placeholder
  before : Timeline
  step : Step Outcome

/-- What takes the place of a placeholder. -/
def Outcome.replacement (placeholder : Document.Placeholder) : Outcome → String
  | resolved value => value
  | failed error => Marker.ofMessage error.message
  | unsupported => placeholder.text

namespace Visit

/-- What a visit puts in the place of its placeholder. -/
def replacement (visit : Visit) : String :=
  visit.step.value.replacement visit.placeholder

/-- The events logged in a visit. -/
def events (visit : Visit) : List Event :=
  visit.step.events ++ visit.step.value.events visit.placeholder.start

end Visit

namespace Filled

/-- Pieces with the outcomes of their placeholders. -/
def ofOutcomes : List Piece → List Outcome → List Filled
  | .literal text :: rest, outcomes => .literal text :: ofOutcomes rest outcomes
  | .placeholder inner :: rest, outcome :: outcomes =>
    .placeholder inner outcome :: ofOutcomes rest outcomes
  | _, _ => []

theorem output_cons (filled : Filled) (rest : List Filled) :
    output (filled :: rest) = filled.text ++ output rest := by
  simp [output, String.join_cons]

private theorem text_placeholder (offset : Nat) (inner : List Char) (outcome : Outcome) :
    (placeholder inner outcome).text =
      outcome.replacement (Document.Placeholder.ofInner offset inner) := by
  cases outcome <;> rfl

private theorem output_ofOutcomes (outcome : Document.Placeholder → Outcome) (offset : Nat)
    (pieces : List Piece) :
    output (ofOutcomes pieces ((Document.placeholdersFrom offset pieces).map outcome)) =
      Document.replacePieces (fun placeholder => (outcome placeholder).replacement placeholder)
        offset pieces := by
  induction pieces generalizing offset with
  | nil => rfl
  | cons piece rest ih =>
    cases piece with
    | literal text =>
      simp only [Document.placeholdersFrom, ofOutcomes, Document.replacePieces, output_cons, ih]
      rfl
    | placeholder inner =>
      simp only [Document.placeholdersFrom, List.map_cons, ofOutcomes, Document.replacePieces,
        output_cons, ih, text_placeholder offset]
      rfl

end Filled

namespace Circumstances

variable {circumstances : Circumstances} {context : Context}

/-- A course visits placeholders one after the other, and takes a run from one state to another. -/
inductive Course (circumstances : Circumstances) (context : Context) :
    Timeline → List Visit → Timeline → Prop
  | nil (t : Timeline) : Course circumstances context t [] t
  | cons {placeholder : Document.Placeholder} {t target : Timeline} {step : Step Outcome}
      {visits : List Visit} :
      circumstances.dispatch? context placeholder.inner t = some step →
      Course circumstances context step.after visits target →
      Course circumstances context t (⟨placeholder, t, step⟩ :: visits) target

namespace Course

variable {t target : Timeline} {visits : List Visit}

/-- The steps of a course can be taken in other circumstances if each of them can. -/
theorem transfer {other : Circumstances} {otherContext : Context}
    (course : circumstances.Course context t visits target)
    (agree : ∀ visit ∈ visits,
      other.dispatch? otherContext visit.placeholder.inner visit.before = some visit.step) :
    other.Course otherContext t visits target := by
  induction course with
  | nil t => exact .nil t
  | @cons placeholder t _ step _ _ _ ih =>
    obtain ⟨dispatched, others⟩ := List.forall_mem_cons.mp agree
    exact .cons dispatched (ih others)

/-- Every visit of a course is a dispatch of its placeholder. -/
theorem dispatched (course : circumstances.Course context t visits target) :
    ∀ visit ∈ visits,
      circumstances.dispatch? context visit.placeholder.inner visit.before = some visit.step := by
  induction course with
  | nil => simp
  | cons first _ ih => exact List.forall_mem_cons.mpr ⟨first, ih⟩

/-- Every visit of a course through placeholders of a document carries out the call of its
placeholder. -/
theorem carriedOut {document : String} (course : circumstances.Course context t visits target)
    (members : ∀ visit ∈ visits, visit.placeholder ∈ Document.scan document) :
    ∀ visit ∈ visits,
      circumstances.carryOut? visit.before visit.placeholder.call? = some visit.step := by
  intro visit visiting
  rw [← dispatch?_of_mem_scan (members visit visiting)]
  exact course.dispatched visit visiting

/-- A course can be followed in other circumstances, from a state that is linked to its start, if
each of its dispatches can. -/
theorem simulate {other : Circumstances} {otherContext : Context}
    {Linked : Timeline → Timeline → Prop} {Fits : Step Outcome → Step Outcome → Prop}
    {start : Timeline} (course : circumstances.Course context t visits target)
    (follows : ∀ visit ∈ visits, ∀ before, Linked visit.before before →
      circumstances.dispatch? context visit.placeholder.inner visit.before = some visit.step →
      ∃ step, other.dispatch? otherContext visit.placeholder.inner before = some step ∧
        Fits visit.step step ∧ Linked visit.step.after step.after)
    (linked : Linked t start) :
    ∃ others otherTarget, other.Course otherContext start others otherTarget ∧
      List.Forall₂ (fun visit followed => followed.placeholder = visit.placeholder ∧
        Fits visit.step followed.step) visits others ∧ Linked target otherTarget := by
  induction course generalizing start with
  | nil t => exact ⟨[], start, .nil start, .nil, linked⟩
  | @cons placeholder t _ step _ dispatched _ ih =>
    obtain ⟨first, rest⟩ := List.forall_mem_cons.mp follows
    obtain ⟨followed, otherDispatched, fits, next⟩ := first start linked dispatched
    obtain ⟨others, otherTarget, otherCourse, fit, last⟩ := ih rest next
    exact ⟨⟨placeholder, start, followed⟩ :: others, otherTarget,
      .cons otherDispatched otherCourse, .cons ⟨rfl, fits⟩ fit, last⟩

/-- A property of states that every dispatch preserves holds after a course. -/
theorem preserves {Holds : Timeline → Prop}
    (course : circumstances.Course context t visits target)
    (preserved : ∀ visit ∈ visits,
      circumstances.dispatch? context visit.placeholder.inner visit.before = some visit.step →
      Holds visit.before → Holds visit.step.after)
    (start : Holds t) : Holds target := by
  induction course with
  | nil t => exact start
  | @cons placeholder t _ step _ dispatched _ ih =>
    obtain ⟨first, others⟩ := List.forall_mem_cons.mp preserved
    have holds : Holds step.after := first dispatched start
    exact ih others holds

/-- A property of states that every dispatch preserves holds whenever a placeholder is visited. -/
theorem holds_before {Holds : Timeline → Prop}
    (course : circumstances.Course context t visits target)
    (preserved : ∀ visit ∈ visits,
      circumstances.dispatch? context visit.placeholder.inner visit.before = some visit.step →
      Holds visit.before → Holds visit.step.after)
    (start : Holds t) : ∀ visit ∈ visits, Holds visit.before := by
  induction course with
  | nil t => exact nofun
  | @cons placeholder t _ step _ dispatched _ ih =>
    obtain ⟨first, others⟩ := List.forall_mem_cons.mp preserved
    have holds : Holds step.after := first dispatched start
    exact List.forall_mem_cons.mpr ⟨start, ih others holds⟩

end Course

/-- There is a course through placeholders that can all be dispatched, whenever that is done. -/
theorem exists_course {Holds : Timeline → Prop} {Fits : Document.Placeholder → Step Outcome → Prop}
    {placeholders : List Document.Placeholder} {t : Timeline}
    (advances : ∀ placeholder ∈ placeholders, ∀ t, Holds t →
      ∃ step, circumstances.dispatch? context placeholder.inner t = some step ∧
        Fits placeholder step ∧ Holds step.after)
    (start : Holds t) :
    ∃ visits target, circumstances.Course context t visits target ∧
      visits.map Visit.placeholder = placeholders ∧
      ∀ visit ∈ visits, Fits visit.placeholder visit.step := by
  induction placeholders generalizing t with
  | nil => exact ⟨[], t, .nil t, rfl, by simp⟩
  | cons placeholder rest ih =>
    obtain ⟨first, others⟩ := List.forall_mem_cons.mp advances
    obtain ⟨step, dispatched, fits, holds⟩ := first t start
    obtain ⟨visits, target, course, same, fit⟩ := ih others holds
    refine ⟨⟨placeholder, t, step⟩ :: visits, target, .cons dispatched course, ?_, ?_⟩
    · rw [List.map_cons, same]
    · exact List.forall_mem_cons.mpr ⟨fits, fit⟩

private theorem fillAll?_eq_some_iff {offset : Nat} {pieces : List Piece} {t : Timeline}
    {step : Step (List Filled)} :
    circumstances.fillAll? context offset pieces t = some step ↔
      ∃ visits after, circumstances.Course context t visits after ∧
        visits.map Visit.placeholder = Document.placeholdersFrom offset pieces ∧
        step = ⟨Filled.ofOutcomes pieces (visits.map (·.step.value)),
          visits.flatMap (·.step.calls), visits.flatMap Visit.events, after⟩ := by
  induction pieces generalizing offset t step with
  | nil =>
    constructor
    · rintro ⟨⟩
      exact ⟨[], t, .nil t, rfl, rfl⟩
    · rintro ⟨visits, after, course, same, rfl⟩
      obtain rfl : visits = [] := List.map_eq_nil_iff.mp same
      cases course
      rfl
  | cons piece rest ih =>
    simp only [fillAll?, bind, pure, Option.bind_eq_some_iff, ih, Option.some.injEq]
    cases piece with
    | literal text =>
      constructor
      · rintro ⟨_, ⟨⟩, _, ⟨visits, after, course, same, rfl⟩, rfl⟩
        exact ⟨visits, after, course, same, rfl⟩
      · rintro ⟨visits, after, course, same, rfl⟩
        exact ⟨_, rfl, _, ⟨visits, after, course, same, rfl⟩, rfl⟩
    | placeholder inner =>
      constructor
      · rintro ⟨_, filled, _, ⟨visits, after, course, same, rfl⟩, rfl⟩
        obtain ⟨step, dispatched, rfl⟩ := Option.map_eq_some_iff.mp filled
        refine ⟨⟨.ofInner offset inner, t, step⟩ :: visits, after, .cons dispatched course, ?_, rfl⟩
        rw [List.map_cons, same]
        rfl
      · rintro ⟨visits, after, course, same, rfl⟩
        cases course with
        | nil => contradiction
        | cons dispatched course =>
          obtain ⟨rfl, rest⟩ := List.cons.inj same
          exact ⟨_, Option.map_eq_some_iff.mpr ⟨_, dispatched, rfl⟩, _,
            ⟨_, after, course, rest, rfl⟩, rfl⟩

end Circumstances

namespace Document

/-- What is reported of a course through the placeholders of a document. A document without
placeholders is not summed up. -/
def report (document : String) (visits : List Visit) (after : Timeline) : Step String :=
  let filled := Filled.ofOutcomes (pieces document) (visits.map (·.step.value))
  { value := Filled.output filled
    calls := visits.flatMap (·.step.calls)
    events := visits.flatMap Visit.events ++
      if hasPlaceholders document then [Filled.summary filled] else []
    after := after }

/-- There is one outcome for every placeholder that is visited. -/
theorem length_outcomes {document : String} {visits : List Visit}
    (visited : visits.map Visit.placeholder = scan document) :
    (visits.map (·.step.value)).length = (scan document).length := by
  rw [← visited, List.length_map, List.length_map]

/-- The outcomes of visits, as a function of the placeholders. -/
theorem outcomes_eq_map {document : String} {visits : List Visit} {outcome : Placeholder → Outcome}
    (visited : visits.map Visit.placeholder = scan document)
    (comes : ∀ visit ∈ visits, visit.step.value = outcome visit.placeholder) :
    visits.map (·.step.value) = (scan document).map outcome := by
  rw [← visited, List.map_map]
  exact List.map_congr_left comes

/-- The output is the document with every placeholder replaced by what its visit came to. -/
theorem substitute?_report {document : String} {visits : List Visit}
    {outcome : Placeholder → Outcome} {after : Timeline}
    (visited : visits.map Visit.placeholder = scan document)
    (comes : ∀ visit ∈ visits, visit.step.value = outcome visit.placeholder) :
    substitute? document (fun placeholder => (outcome placeholder).replacement placeholder) =
      some (report document visits after).value := by
  rw [substitute?_eq_some, ← Filled.output_ofOutcomes]
  simp only [report, outcomes_eq_map visited comes]
  rfl

/-- The placeholders that are visited are placeholders of the document. -/
theorem mem_scan_of_visited {document : String} {visits : List Visit}
    (visited : visits.map Visit.placeholder = scan document) :
    ∀ visit ∈ visits, visit.placeholder ∈ scan document := by
  intro visit visiting
  rw [← visited]
  exact List.mem_map_of_mem visiting

/-- Every placeholder of a document is visited once, so that its outcome is a function of it. -/
theorem exists_outcome {document : String} {visits : List Visit}
    (visited : visits.map Visit.placeholder = scan document) :
    ∃ outcome : Placeholder → Outcome,
      ∀ visit ∈ visits, visit.step.value = outcome visit.placeholder := by
  have apart : visits.Pairwise fun first second => first.placeholder ≠ second.placeholder := by
    have ordered := pairwise_scan document
    rw [← visited, List.pairwise_map] at ordered
    apply ordered.imp
    intro first second before same
    rw [same] at before
    exact Nat.lt_irrefl _ before.1
  clear visited
  induction apart with
  | nil => exact ⟨fun _ => .unsupported, by simp⟩
  | @cons visit rest apart _ ih =>
    obtain ⟨outcome, comes⟩ := ih
    refine ⟨fun placeholder =>
      if placeholder = visit.placeholder then visit.step.value else outcome placeholder, ?_⟩
    intro other member
    rcases List.mem_cons.mp member with rfl | member
    · exact (if_pos rfl).symm
    · have different : other.placeholder ≠ visit.placeholder := (apart other member).symm
      exact (comes other member).trans (if_neg different).symm

end Document

/-- A rendering is a course through the placeholders of its document. -/
theorem Circumstances.render?_eq_some_iff {circumstances : Circumstances} {context : Context}
    {document : String} {t : Timeline} {step : Step String} :
    circumstances.render? context document t = some step ↔
      ∃ visits after, circumstances.Course context t visits after ∧
        visits.map Visit.placeholder = Document.scan document ∧
        step = Document.report document visits after := by
  unfold render?
  split
  · next present =>
    rw [Option.map_eq_some_iff]
    constructor
    · rintro ⟨_, filled, rfl⟩
      obtain ⟨visits, after, course, visited, rfl⟩ := fillAll?_eq_some_iff.mp filled
      exact ⟨visits, after, course, visited, by simp only [Document.report, if_pos present]⟩
    · rintro ⟨visits, after, course, visited, rfl⟩
      exact ⟨_, fillAll?_eq_some_iff.mpr ⟨visits, after, course, visited, rfl⟩,
        by simp only [Document.report, if_pos present]⟩
  · next absent =>
    -- The fast path reports the course through no placeholders.
    have empty : Document.scan document = [] := by
      rwa [Document.hasPlaceholders_iff, not_not] at absent
    have same : (Document.report document [] t).value = document := by
      have copied := @Document.substitute?_report document [] (fun _ => .unsupported) t
        empty.symm (by simp)
      exact Option.some.inj (copied.symm.trans (Document.substitute?_text document))
    have quiet : Document.report document [] t = ⟨document, [], [], t⟩ := by
      simp only [Document.report, if_neg absent] at same ⊢
      rw [same]
      rfl
    constructor
    · rintro ⟨⟩
      exact ⟨[], t, .nil t, empty.symm, quiet.symm⟩
    · rintro ⟨visits, after, course, visited, rfl⟩
      obtain rfl : visits = [] := List.map_eq_nil_iff.mp (visited.trans empty)
      cases course
      rw [quiet]

/-- A document without supported placeholders is its own rendering, and nothing is called for it. -/
theorem Circumstances.render?_of_unsupported (circumstances : Circumstances) (context : Context)
    {document : String} (t : Timeline)
    (unsupported : ∀ placeholder ∈ Document.scan document, ¬ placeholder.IsSupported) :
    ∃ step, circumstances.render? context document t = some step ∧
      step.value = document ∧ step.calls = [] ∧ step.after = t := by
  have left : ∀ placeholder ∈ Document.scan document, ∀ now,
      circumstances.dispatch? context placeholder.inner now = some ⟨.unsupported, [], [], now⟩ := by
    intro placeholder member now
    rw [dispatch?_of_mem_scan member,
      Document.Placeholder.call?_eq_none_iff.mpr (unsupported placeholder member)]
    rfl
  obtain ⟨visits, after, course, visited, untouched⟩ :=
    @exists_course circumstances context (fun _ => True)
      (fun _ step => step.value = .unsupported ∧ step.calls = []) _ t
      (fun placeholder member now _ => ⟨_, left placeholder member now, ⟨rfl, rfl⟩, trivial⟩)
      trivial
  have members := Document.mem_scan_of_visited visited
  have still : t = after := by
    refine course.preserves (fun visit visiting dispatched before => ?_) rfl
    rw [left visit.placeholder (members visit visiting)] at dispatched
    rw [before, ← Option.some.inj dispatched]
  have copied := @Document.substitute?_report document visits (fun _ => .unsupported) after visited
    fun visit visiting => (untouched visit visiting).1
  refine ⟨_, render?_eq_some_iff.mpr ⟨visits, after, course, visited, rfl⟩, ?_, ?_,
    still.symm⟩
  · exact Option.some.inj (copied.symm.trans (Document.substitute?_text document))
  · exact List.flatMap_eq_nil_iff.mpr fun visit visiting => (untouched visit visiting).2

end Splice
