import Splice.Proofs.Render.Calm

/-! # Renderings that are cancelled

Cancellation cuts a rendering at one point. The placeholders before it come to what they would come
to in a run that does not heed cancellation, and those behind it are not called any more; only the
call at the point may have been made in vain. The main statement finds the point for every rendering
that ends.
-/

namespace Splice

namespace Visit

/-- Whether the placeholder of a visit belongs to a provider. -/
def isSupported (visit : Visit) : Bool :=
  visit.placeholder.call?.isSome

private theorem isSupported_eq_false_iff {visit : Visit} :
    visit.isSupported = false ↔ visit.placeholder.call? = none := by
  rw [isSupported, Option.isSome_eq_false_iff, Option.isNone_iff_eq_none]

/-- A visit that makes no call and takes no time. -/
def Idle (visit : Visit) : Prop :=
  visit.step.calls = [] ∧ visit.step.after = visit.before

/-- A visit of a placeholder that is not called any more. -/
structure Skipped (visit : Visit) : Prop where
  cancelled : visit.step.value = .failed .cancelled
  idle : visit.Idle

/-- A visit that goes as it would in a run that does not heed cancellation. It makes its call, and
its placeholder comes to what it comes to alone, whenever it is dispatched. -/
structure Undisturbed (circumstances : Circumstances) (context : Context) (visit : Visit) :
    Prop where
  dispatched : circumstances.heedless.dispatch? context visit.placeholder.inner visit.before =
    some visit.step
  called : visit.step.calls = visit.placeholder.call?.toList
  alone : ∀ fresh,
    (circumstances.heedless.dispatch? context visit.placeholder.inner fresh).map Step.value =
      some visit.step.value

end Visit

/-- A point at which visits of supported placeholders are cut. -/
structure IsCut (circumstances : Circumstances) (context : Context) (visits : List Visit)
    (cut : Nat) : Prop where
  bounded : cut ≤ visits.length
  before : ∀ visit ∈ visits.take cut, visit.Undisturbed circumstances context
  behind : ∀ visit ∈ visits.drop cut, visit.step.value = .failed .cancelled
  idle : ∀ visit ∈ visits.drop (cut + 1), visit.Idle

namespace IsCut

variable {circumstances : Circumstances} {context : Context} {visit : Visit} {visits : List Visit}
  {cut : Nat}

private theorem nil : IsCut circumstances context [] 0 :=
  ⟨Nat.le_refl 0, by simp, by simp, by simp⟩

private theorem cons (undisturbed : visit.Undisturbed circumstances context)
    (rest : IsCut circumstances context visits cut) :
    IsCut circumstances context (visit :: visits) (cut + 1) :=
  ⟨Nat.succ_le_succ rest.bounded, List.forall_mem_cons.mpr ⟨undisturbed, rest.before⟩,
    rest.behind, rest.idle⟩

private theorem skipped (all : ∀ visit ∈ visits, visit.Skipped) :
    IsCut circumstances context visits 0 where
  bounded := Nat.zero_le _
  before := by simp
  behind := by
    intro visit member
    exact (all visit member).cancelled
  idle := by
    intro visit member
    exact (all visit (List.mem_of_mem_drop member)).idle

private theorem interrupted (cancelled : visit.step.value = .failed .cancelled)
    (rest : ∀ other ∈ visits, other.Skipped) :
    IsCut circumstances context (visit :: visits) 0 where
  bounded := Nat.zero_le _
  before := by simp
  behind := List.forall_mem_cons.mpr ⟨cancelled, fun other member => (rest other member).cancelled⟩
  idle := by
    intro other member
    exact (rest other member).idle

end IsCut

private theorem Outcome.replacement_cancelled (placeholder : Document.Placeholder) :
    (failed .cancelled).replacement placeholder = "\x7b\x7bERROR:operation cancelled\x7d\x7d" :=
  rfl

namespace Circumstances

variable {circumstances : Circumstances} {context : Context} {document : String} {t : Timeline}

private theorem carryOut?_of_cancelled {call : Call} (heedful : circumstances.heedful = true)
    (cancelled : t.cancelled = true) :
    circumstances.carryOut? t (some call) =
      some ⟨.failed .cancelled, [], [.dispatching call.provider], t⟩ := by
  simp only [carryOut?, call?_of_cancelled heedful cancelled, Option.map_some]
  rfl

private theorem carryOut?_cases {call : Call} {step : Step Outcome}
    (done : circumstances.carryOut? t (some call) = some step) :
    (circumstances.heedful = true ∧ t.cancelled = true) ∨
    circumstances.heedless.carryOut? t (some call) = some step ∨
    (circumstances.heedful = true ∧ step.value = .failed .cancelled ∧
      step.after.cancelled = true) := by
  obtain ⟨called, made, rfl⟩ := Option.map_eq_some_iff.mp done
  rcases call?_cases made with before | undisturbed | ⟨heedful, value, _, cancelled⟩
  · exact .inl before
  · exact .inr (.inl (by simp only [carryOut?, undisturbed, Option.map_some]))
  · exact .inr (.inr ⟨heedful, by simp only [value, Outcome.ofResult], cancelled⟩)

private theorem undisturbed_of_carryOut? {visit : Visit}
    (member : visit.placeholder ∈ Document.scan document)
    (done : circumstances.heedless.carryOut? visit.before visit.placeholder.call? =
      some visit.step) : visit.Undisturbed circumstances context := by
  have calm (t : Timeline) : circumstances.heedless.Calm t := Bool.false_ne_true.elim
  have dispatched : circumstances.heedless.dispatch? context visit.placeholder.inner
      visit.before = some visit.step := (dispatch?_of_mem_scan member).trans done
  refine ⟨dispatched, calls_carryOut?_of_calm (calm _) done, ?_⟩
  intro fresh
  rw [dispatch?_of_calm (calm fresh), ← dispatch?_of_calm (calm visit.before), dispatched,
    Option.map_some]

namespace Course

variable {target : Timeline} {visits : List Visit}

private theorem unsupported (course : circumstances.Course context t visits target)
    (members : ∀ visit ∈ visits, visit.placeholder ∈ Document.scan document) :
    ∀ visit ∈ visits, visit.isSupported = false →
      visit.step = ⟨.unsupported, [], [], visit.before⟩ := by
  induction course with
  | nil => simp
  | @cons placeholder t _ step _ dispatched _ ih =>
    obtain ⟨member, others⟩ := List.forall_mem_cons.mp members
    refine List.forall_mem_cons.mpr ⟨fun alien => ?_, ih others⟩
    rw [dispatch?_of_mem_scan member, Visit.isSupported_eq_false_iff.mp alien] at dispatched
    cases dispatched
    rfl

/-- In a run that was cancelled before, nothing is called any more. -/
theorem of_cancelled (course : circumstances.Course context t visits target)
    (members : ∀ visit ∈ visits, visit.placeholder ∈ Document.scan document)
    (heedful : circumstances.heedful = true) (cancelled : t.cancelled = true) :
    target = t ∧ ∀ visit ∈ visits, visit.Idle ∧
      (visit.isSupported = true → visit.step.value = .failed .cancelled) := by
  induction course with
  | nil => exact ⟨rfl, by simp⟩
  | @cons placeholder t _ step _ dispatched _ ih =>
    obtain ⟨member, others⟩ := List.forall_mem_cons.mp members
    rw [dispatch?_of_mem_scan member] at dispatched
    cases asked : placeholder.call? with
    | none =>
      rw [asked] at dispatched
      cases dispatched
      obtain ⟨rfl, idle⟩ := ih others cancelled
      refine ⟨rfl, List.forall_mem_cons.mpr ⟨⟨⟨rfl, rfl⟩, fun supported => ?_⟩, idle⟩⟩
      simp [Visit.isSupported, asked] at supported
    | some call =>
      rw [asked, carryOut?_of_cancelled heedful cancelled] at dispatched
      cases dispatched
      obtain ⟨rfl, idle⟩ := ih others cancelled
      exact ⟨rfl, List.forall_mem_cons.mpr ⟨⟨⟨rfl, rfl⟩, fun _ => rfl⟩, idle⟩⟩

private theorem skipped_of_cancelled (course : circumstances.Course context t visits target)
    (members : ∀ visit ∈ visits, visit.placeholder ∈ Document.scan document)
    (heedful : circumstances.heedful = true) (cancelled : t.cancelled = true) :
    ∀ visit ∈ visits.filter Visit.isSupported, visit.Skipped := by
  intro visit kept
  obtain ⟨visited, supported⟩ := List.mem_filter.mp kept
  obtain ⟨idle, value⟩ := (course.of_cancelled members heedful cancelled).2 visit visited
  exact ⟨value supported, idle⟩

/-- Every course is cut at one point: behind all its calls if it ends without having been cancelled,
and before them if it was cancelled from the start. -/
private theorem exists_cut (course : circumstances.Course context t visits target)
    (members : ∀ visit ∈ visits, visit.placeholder ∈ Document.scan document) :
    ∃ cut, IsCut circumstances context (visits.filter Visit.isSupported) cut ∧
      ((circumstances.heedful = true → target.cancelled = false) →
        cut = (visits.filter Visit.isSupported).length) ∧
      (circumstances.heedful = true → t.cancelled = true → cut = 0) := by
  induction course with
  | nil => exact ⟨0, .nil, fun _ => rfl, fun _ _ => rfl⟩
  | @cons placeholder t target step visits dispatched tail ih =>
    obtain ⟨member, others⟩ := List.forall_mem_cons.mp members
    by_cases before : circumstances.heedful = true ∧ t.cancelled = true
    · have whole := cons dispatched tail
      refine ⟨0, .skipped (whole.skipped_of_cancelled members before.1 before.2), ?_,
        fun _ _ => rfl⟩
      intro uncut
      rw [(whole.of_cancelled members before.1 before.2).1] at uncut
      exact absurd ((uncut before.1).symm.trans before.2) Bool.false_ne_true
    · have fresh (cut : Nat) : circumstances.heedful = true → t.cancelled = true → cut = 0 :=
        fun heedful cancelled => absurd ⟨heedful, cancelled⟩ before
      rw [dispatch?_of_mem_scan member] at dispatched
      cases asked : placeholder.call? with
      | none =>
        have skipped : ¬ Visit.isSupported ⟨placeholder, t, step⟩ = true := by
          simp [Visit.isSupported, asked]
        rw [List.filter_cons_of_neg skipped]
        obtain ⟨cut, isCut, complete, _⟩ := ih others
        exact ⟨cut, isCut, complete, fresh cut⟩
      | some call =>
        have kept : Visit.isSupported ⟨placeholder, t, step⟩ = true := by
          simp [Visit.isSupported, asked]
        rw [List.filter_cons_of_pos kept]
        rw [asked] at dispatched
        rcases carryOut?_cases dispatched with heeded | undisturbed | ⟨heedful, value, cancelled⟩
        · exact absurd heeded before
        · rw [← asked] at undisturbed
          obtain ⟨cut, isCut, complete, _⟩ := ih others
          refine ⟨cut + 1, .cons (undisturbed_of_carryOut? member undisturbed) isCut, ?_,
            fresh (cut + 1)⟩
          intro uncut
          exact congrArg (· + 1) (complete uncut)
        · refine ⟨0, .interrupted value (tail.skipped_of_cancelled others heedful cancelled), ?_,
            fresh 0⟩
          intro uncut
          rw [(tail.of_cancelled others heedful cancelled).1] at uncut
          exact absurd ((uncut heedful).symm.trans cancelled) Bool.false_ne_true

private theorem heedless (course : circumstances.Course context t visits target)
    (members : ∀ visit ∈ visits, visit.placeholder ∈ Document.scan document)
    (isCut : IsCut circumstances context (visits.filter Visit.isSupported)
      (visits.filter Visit.isSupported).length) :
    circumstances.heedless.Course context t visits target := by
  apply course.transfer
  intro visit visiting
  cases supported : visit.isSupported with
  | false =>
    rw [dispatch?_of_mem_scan (members visit visiting),
      course.unsupported members visit visiting supported,
      Visit.isSupported_eq_false_iff.mp supported]
    rfl
  | true =>
    have kept : visit ∈ visits.filter Visit.isSupported := List.mem_filter.mpr ⟨visiting, supported⟩
    rw [← List.take_length (l := visits.filter Visit.isSupported)] at kept
    exact (isCut.before visit kept).dispatched

private theorem calm (course : circumstances.Course context t visits target)
    (members : ∀ visit ∈ visits, visit.placeholder ∈ Document.scan document)
    (calm : circumstances.Calm t) : circumstances.Calm target := by
  refine course.preserves (fun visit member dispatched calm => ?_) calm
  rw [dispatch?_of_mem_scan (members visit member)] at dispatched
  exact calm.after_carryOut? dispatched

end Course

/-- A rendering ends if none of its calls hangs. -/
theorem exists_render?_of_answered (context : Context) (t : Timeline)
    (answered : ∀ call ∈ Document.calls document, circumstances.deadline = none →
      (circumstances.gateway call).latency ≠ .never) :
    ∃ step, circumstances.render? context document t = some step := by
  have advances : ∀ placeholder ∈ Document.scan document, ∀ t, True →
      ∃ step, circumstances.dispatch? context placeholder.inner t = some step ∧ True ∧ True := by
    intro placeholder member t _
    obtain ⟨step, dispatched⟩ := exists_dispatch? answered member t
    exact ⟨step, dispatched, trivial, trivial⟩
  obtain ⟨visits, after, course, visited, _⟩ := @exists_course _ _ _ _ _ t advances trivial
  exact ⟨_, render?_eq_some_iff.mpr ⟨visits, after, course, visited, rfl⟩⟩

/-- A rendering ends if somebody has cancelled or is going to, even if its calls hang. -/
theorem exists_render?_of_willCancel (context : Context) (document : String)
    (heedful : circumstances.heedful = true) (willCancel : t.WillCancel) :
    ∃ step, circumstances.render? context document t = some step := by
  have advances : ∀ placeholder ∈ Document.scan document, ∀ t : Timeline, t.WillCancel →
      ∃ step, circumstances.dispatch? context placeholder.inner t = some step ∧ True ∧
        step.after.WillCancel := by
    intro placeholder member t willCancel
    rw [dispatch?_of_mem_scan member]
    cases placeholder.call? with
    | none => exact ⟨_, rfl, trivial, willCancel⟩
    | some call =>
      obtain ⟨step, called, still⟩ := exists_call?_of_willCancel heedful willCancel
      exact ⟨_, congrArg (Option.map _) called, trivial, still⟩
  obtain ⟨visits, after, course, visited, _⟩ := exists_course advances willCancel
  exact ⟨_, render?_eq_some_iff.mpr ⟨visits, after, course, visited, rfl⟩⟩

/-- A rendering ends if none of its calls hangs or it was cancelled before. One that ends visits the
placeholders of its document and is cut at one point. It splices what the visits came to into the
document. A placeholder of no provider stays as it is, and one behind the cut is marked as
cancelled. If nobody cancels until the end, the rendering is the same as one that does not heed
cancellation; if somebody did before the start, nothing is called. -/
theorem render?_cut (circumstances : Circumstances) (context : Context) (document : String)
    (t : Timeline) :
    ((∀ call ∈ Document.calls document, circumstances.deadline = none →
        (circumstances.gateway call).latency ≠ .never) ∨
      (circumstances.heedful = true ∧ t.cancelled = true) →
      ∃ step, circumstances.render? context document t = some step) ∧
    ∀ step, circumstances.render? context document t = some step →
      ∃ visits cut, circumstances.Course context t visits step.after ∧
        visits.map Visit.placeholder = Document.scan document ∧
        step = Document.report document visits step.after ∧
        (∃ replace, (∀ visit ∈ visits, replace visit.placeholder = visit.replacement) ∧
          Document.substitute? document replace = some step.value) ∧
        (∀ visit ∈ visits, visit.isSupported = false →
          visit.replacement = visit.placeholder.text ∧ visit.Idle) ∧
        IsCut circumstances context (visits.filter Visit.isSupported) cut ∧
        (∀ visit ∈ (visits.filter Visit.isSupported).drop cut,
          visit.replacement = "\x7b\x7bERROR:operation cancelled\x7d\x7d") ∧
        (circumstances.Calm t ∨ step.after.cancelled = false →
          cut = (visits.filter Visit.isSupported).length ∧
          circumstances.heedless.render? context document t = some step) ∧
        (circumstances.heedful = true → t.cancelled = true →
          cut = 0 ∧ step.calls = [] ∧ step.after = t) := by
  have ends : (∀ call ∈ Document.calls document, circumstances.deadline = none →
        (circumstances.gateway call).latency ≠ .never) ∨
      (circumstances.heedful = true ∧ t.cancelled = true) →
      ∃ step, circumstances.render? context document t = some step := by
    rintro (answered | ⟨heedful, cancelled⟩)
    · exact exists_render?_of_answered context t answered
    · exact exists_render?_of_willCancel context document heedful (.inl cancelled)
  refine ⟨ends, ?_⟩
  intro step ended
  obtain ⟨visits, after, course, visited, rfl⟩ := render?_eq_some_iff.mp ended
  have members : ∀ visit ∈ visits, visit.placeholder ∈ Document.scan document := by
    intro visit visiting
    rw [← visited]
    exact List.mem_map_of_mem visiting
  obtain ⟨outcome, comes⟩ := Document.exists_outcome visited
  have untouched := course.unsupported members
  obtain ⟨cut, isCut, complete, fresh⟩ := course.exists_cut members
  refine ⟨visits, cut, course, visited, rfl,
    ⟨_, ?_, Document.substitute?_report visited comes⟩, ?_, isCut, ?_, ?_, ?_⟩
  · intro visit visiting
    rw [← comes visit visiting]
    rfl
  · intro visit visiting alien
    rw [Visit.replacement, Visit.Idle, untouched visit visiting alien]
    exact ⟨rfl, rfl, rfl⟩
  · intro visit behind
    rw [Visit.replacement, isCut.behind visit behind, Outcome.replacement_cancelled]
  · intro uncancelled
    have uncut : circumstances.heedful = true → after.cancelled = false := by
      intro heedful
      rcases uncancelled with calm | uncancelled
      · exact (course.calm members calm heedful).1
      · exact uncancelled
    have whole := complete uncut
    have plain := course.heedless members (whole ▸ isCut)
    exact ⟨whole, render?_eq_some_iff.mpr ⟨visits, after, plain, visited, rfl⟩⟩
  · intro heedful cancelled
    obtain ⟨same, idle⟩ := course.of_cancelled members heedful cancelled
    have silent : visits.flatMap (·.step.calls) = [] :=
      List.flatMap_eq_nil_iff.mpr fun visit visiting => (idle visit visiting).1.1
    exact ⟨fresh heedful cancelled, silent, same⟩

/-- An alarm that goes off while the second of three calls waits. -/
theorem render?_cut_alarm :
    let world : World :=
      { stores := { parameters := [("p", "1"), ("q", "2"), ("r", "3")] }
        delays := [("q", 10)] }
    let circumstances := world.circumstances none true
    let document := "\x7b\x7baws:ssm:p\x7d\x7d\x7b\x7bx\x7d\x7d" ++
      "\x7b\x7baws:ssm:q\x7d\x7d\x7b\x7baws:ssm:r\x7d\x7d"
    let marker := "\x7b\x7bERROR:operation cancelled\x7d\x7d"
    ∃ (step : Step String) (visits : List Visit) (cut : Nat),
      circumstances.render? {} document { alarms := [5] } = some step ∧
      step.value = "1\x7b\x7bx\x7d\x7d" ++ marker ++ marker ∧
      step.calls = [.parameter "p", .parameter "q"] ∧
      visits.map Visit.placeholder = Document.scan document ∧
      IsCut circumstances {} (visits.filter Visit.isSupported) cut := by
  intro world circumstances document marker
  have rendered : (circumstances.render? {} document { alarms := [5] }).map
      (fun step => (step.value, step.calls)) =
      some ("1\x7b\x7bx\x7d\x7d" ++ marker ++ marker, [.parameter "p", .parameter "q"]) := by
    decide +kernel
  obtain ⟨step, ended, shown⟩ := Option.map_eq_some_iff.mp rendered
  obtain ⟨visits, cut, _, visited, _, _, _, isCut, _⟩ :=
    (render?_cut circumstances {} document { alarms := [5] }).2 step ended
  exact ⟨step, visits, cut, ended, congrArg Prod.fst shown, congrArg Prod.snd shown, visited, isCut⟩

end Circumstances

end Splice
