import Mathlib.Algebra.Ring.Nat
import Splice.Invocation
import Splice.Proofs.Render.Cut

/-! # Renderings with a deadline

Every call has the whole deadline for itself. `IsPunctual` says what becomes of the placeholders of
a document when each of their calls has the same deadline, and how long that takes. The main
statement, `render?_punctual`, says that a rendering with a deadline ends so if nobody cancels, and
that a later deadline changes nothing but the placeholders that had run out of time.
-/

namespace Splice

namespace Latency

/-- How long a call takes under a deadline. -/
def within (limit : Nat) : Latency → Nat
  | after delay => min delay limit
  | never => limit

/-- An answer that comes after a deadline, or never. -/
inductive Exceeds (limit : Nat) : Latency → Prop
  | late {delay : Nat} : limit < delay → Exceeds limit (after delay)
  | never : Exceeds limit never

private theorem within_of_exceeds {limit : Nat} {latency : Latency}
    (exceeds : latency.Exceeds limit) :
    latency.within limit = limit := by
  cases exceeds with
  | late late => exact Nat.min_eq_right (Nat.le_of_lt late)
  | never => rfl

private theorem exists_delay_of_not_exceeds {limit : Nat} {latency : Latency}
    (inTime : ¬ latency.Exceeds limit) :
    ∃ delay, latency = after delay ∧ delay ≤ limit ∧ latency.within limit = delay := by
  cases latency with
  | after delay =>
    have soon : delay ≤ limit := by
      apply Nat.le_of_not_lt
      intro late
      exact inTime (.late late)
    exact ⟨delay, rfl, soon, Nat.min_eq_left soon⟩
  | never => exact absurd .never inTime

end Latency

private theorem Invocation.exists_events_of_render? {arguments : CommandLine.Arguments}
    {circumstances : Circumstances} {document : String} {t : Timeline} {step : Step String}
    (rendered : ({ circumstances with deadline := arguments.deadline, heedful := true } :
      Circumstances).render? ⟨arguments.env⟩ document t = some step) :
    ∃ events, Invocation.render? arguments circumstances document t =
      some { step with events := events } := by
  simp only [Invocation.render?, rendered, Option.map_some]
  split
  · exact ⟨_, rfl⟩
  · exact ⟨_, rfl⟩

private theorem Outcome.replacement_timeout (milliseconds : Nat)
    (placeholder : Document.Placeholder) :
    (failed (.timeout milliseconds)).replacement placeholder =
      "\x7b\x7bERROR:provider call timed out after " ++ toString milliseconds ++ "ms\x7d\x7d" := by
  have front : Marker.opening ++ "provider call timed out after " =
      "\x7b\x7bERROR:provider call timed out after " := by decide +kernel
  have back : "ms" ++ "\x7d\x7d" = "ms\x7d\x7d" := by decide +kernel
  calc (failed (.timeout milliseconds)).replacement placeholder
    _ = Marker.opening ++ ("provider call timed out after " ++ toString milliseconds ++ "ms") ++
        "\x7d\x7d" := rfl
    _ = Marker.opening ++ "provider call timed out after " ++ toString milliseconds ++
        ("ms" ++ "\x7d\x7d") := by simp only [String.append_assoc]
    _ = _ := by rw [front, back]

namespace Circumstances

variable {circumstances : Circumstances} {context : Context} {document : String} {call : Call}
  {t : Timeline}

/-! ## Renderings that nobody cancels -/

/-- How long a call takes when nobody cancels it. A call that never ends is not counted. -/
def duration (circumstances : Circumstances) (call : Call) : Nat :=
  ((circumstances.undisturbed? call).map Prod.fst).getD 0

/-- What a placeholder that asks for a call comes to when nobody cancels. -/
inductive Meets (circumstances : Circumstances) : Option Call → Outcome → Prop
  | unsupported : Meets circumstances none .unsupported
  | called {call : Call} {wait : Nat} {result : CallResult} :
      circumstances.undisturbed? call = some (wait, result) →
      Meets circumstances (some call) (.ofResult result)

private theorem Calm.meets {asked : Option Call} {step : Step Outcome} (calm : circumstances.Calm t)
    (done : circumstances.carryOut? t asked = some step) :
    circumstances.Meets asked step.value ∧
      step.after.now = t.now + (step.calls.map circumstances.duration).sum := by
  cases asked with
  | none =>
    cases done
    exact ⟨.unsupported, rfl⟩
  | some call =>
    obtain ⟨called, made, rfl⟩ := Option.map_eq_some_iff.mp done
    rw [call?_of_calm calm, call?_heedless] at made
    obtain ⟨⟨wait, result⟩, ending, rfl⟩ := Option.map_eq_some_iff.mp made
    refine ⟨.called ending, ?_⟩
    simp [duration, ending]

private theorem Course.now_eq {duration : Call → Nat} {visits : List Visit} {target : Timeline}
    (course : circumstances.Course context t visits target)
    (takes : ∀ visit ∈ visits,
      visit.step.after.now = visit.before.now + (visit.step.calls.map duration).sum) :
    target.now = t.now + ((visits.flatMap (·.step.calls)).map duration).sum := by
  induction course with
  | nil t => rfl
  | @cons placeholder t target step visits _ _ ih =>
    obtain ⟨first, others⟩ := List.forall_mem_cons.mp takes
    have rest := ih others
    rw [List.flatMap_cons, List.map_append, List.sum_append]
    dsimp only at first ⊢
    omega

private theorem exists_render?_of_calm (calm : circumstances.Calm t)
    (answered : ∀ call ∈ Document.calls document, circumstances.deadline = none →
      (circumstances.gateway call).latency ≠ .never) :
    ∃ (step : Step String) (outcome : Document.Placeholder → Outcome),
      circumstances.render? context document t = some step ∧
      Document.substitute? document
        (fun placeholder => (outcome placeholder).replacement placeholder) = some step.value ∧
      step.calls = Document.calls document ∧
      step.after.now = t.now + ((Document.calls document).map circumstances.duration).sum ∧
      ∀ placeholder ∈ Document.scan document,
        circumstances.Meets placeholder.call? (outcome placeholder) := by
  obtain ⟨step, rendered⟩ := exists_render?_of_answered context t answered
  obtain ⟨visits, after, course, visited, rfl⟩ := render?_eq_some_iff.mp rendered
  have members := Document.mem_scan_of_visited visited
  have carriedOut := course.carriedOut members
  have calmly : ∀ visit ∈ visits, circumstances.Calm visit.before :=
    course.holds_before
      (fun visit visiting _ before => before.after_carryOut? (carriedOut visit visiting)) calm
  obtain ⟨outcome, comes⟩ := Document.exists_outcome visited
  have made : visits.flatMap (·.step.calls) = Document.calls document := by
    calc visits.flatMap (·.step.calls)
      _ = visits.flatMap (·.placeholder.call?.toList) :=
        List.flatMap_congr fun visit visiting =>
          calls_carryOut?_of_calm (calmly visit visiting) (carriedOut visit visiting)
      _ = (Document.scan document).flatMap (·.call?.toList) := by
        rw [← visited, List.flatMap_map]
      _ = Document.calls document := (List.filterMap_eq_flatMap_toList _ _).symm
  have met : ∀ visit ∈ visits,
      circumstances.Meets visit.placeholder.call? visit.step.value ∧
        visit.step.after.now =
          visit.before.now + (visit.step.calls.map circumstances.duration).sum :=
    fun visit visiting => (calmly visit visiting).meets (carriedOut visit visiting)
  refine ⟨_, outcome, rendered, Document.substitute?_report visited comes, made, ?_, ?_⟩
  · rw [← made]
    exact course.now_eq fun visit visiting => (met visit visiting).2
  · rw [← visited]
    intro placeholder member
    obtain ⟨visit, visiting, rfl⟩ := List.mem_map.mp member
    rw [← comes visit visiting]
    exact (met visit visiting).1

/-! ## Deadlines -/

/-- The same circumstances with another deadline, or with none. -/
def withDeadline (circumstances : Circumstances) (deadline : Option Nat) : Circumstances :=
  { circumstances with deadline := deadline }

private theorem undisturbed?_of_exceeds {limit : Nat}
    (exceeds : (circumstances.gateway call).latency.Exceeds limit) :
    (circumstances.withDeadline (some limit)).undisturbed? call =
      some (limit, .error (.timeout (min limit greatestReport))) := by
  unfold undisturbed? withDeadline
  dsimp only
  generalize (circumstances.gateway call).latency = latency at exceeds
  cases exceeds with
  | late late => exact if_neg (Nat.not_le_of_lt late)
  | never => rfl

/-- A call whose answer is in time ends with it, and so it does if the deadline is later or there is
none. -/
theorem undisturbed?_of_later {limit : Nat} {deadline : Option Nat}
    (inTime : ¬ (circumstances.gateway call).latency.Exceeds limit)
    (later : ∀ other ∈ deadline, limit ≤ other) :
    (circumstances.withDeadline deadline).undisturbed? call =
      some ((circumstances.gateway call).latency.within limit,
        (circumstances.gateway call).result) := by
  obtain ⟨delay, answered, soon, same⟩ := Latency.exists_delay_of_not_exceeds inTime
  rw [same]
  apply @undisturbed?_of_inTime (circumstances.withDeadline deadline) call delay answered
  intro other isDeadline
  exact Nat.le_trans soon (later other isDeadline)

private theorem duration_withDeadline (circumstances : Circumstances) (limit : Nat) (call : Call) :
    (circumstances.withDeadline (some limit)).duration call =
      (circumstances.gateway call).latency.within limit := by
  unfold duration
  by_cases exceeds : (circumstances.gateway call).latency.Exceeds limit
  · rw [undisturbed?_of_exceeds exceeds, Latency.within_of_exceeds exceeds]
    rfl
  · rw [undisturbed?_of_later exceeds (by simp)]
    rfl

/-- A rendering in which every call has the same deadline, and nobody cancels. -/
structure IsPunctual (circumstances : Circumstances) (context : Context) (document : String)
    (limit : Nat) (t : Timeline) (step : Step String)
    (outcome : Document.Placeholder → Outcome) : Prop where
  /-- Every placeholder is replaced by what it comes to. -/
  replaces : Document.substitute? document
    (fun placeholder => (outcome placeholder).replacement placeholder) = some step.value
  /-- Every call of the document is made. -/
  calls : step.calls = Document.calls document
  /-- Every call takes its own time, and the whole deadline if it is not answered in time. -/
  elapsed : step.after.now = t.now + ((Document.calls document).map
    fun call => (circumstances.gateway call).latency.within limit).sum
  /-- A placeholder fails because of the deadline if the answer to its call comes later. -/
  timedOut : ∀ placeholder ∈ Document.scan document, ∀ call, placeholder.call? = some call →
    (outcome placeholder = .failed (.timeout (min limit (2 ^ 64 - 1))) ↔
      (circumstances.gateway call).latency.Exceeds limit)
  /-- Such a placeholder is marked with the deadline. -/
  marked : ∀ placeholder ∈ Document.scan document, ∀ call, placeholder.call? = some call →
    (circumstances.gateway call).latency.Exceeds limit →
      (outcome placeholder).replacement placeholder =
        "\x7b\x7bERROR:provider call timed out after " ++ toString (min limit (2 ^ 64 - 1)) ++
          "ms\x7d\x7d"
  /-- Any other placeholder comes to what its call is answered, as it does alone and without a
  deadline. -/
  answered : ∀ placeholder ∈ Document.scan document, ∀ call, placeholder.call? = some call →
    ¬ (circumstances.gateway call).latency.Exceeds limit →
      outcome placeholder = .ofResult (circumstances.gateway call).result ∧
      ∀ fresh, circumstances.Calm fresh →
        ((circumstances.withDeadline none).dispatch? context placeholder.inner fresh).map
          Step.value = some (outcome placeholder)
  /-- A placeholder of no provider is left as it is. -/
  untouched : ∀ placeholder ∈ Document.scan document, ¬ placeholder.IsSupported →
    outcome placeholder = .unsupported

private theorem Meets.eq_unsupported {outcome : Outcome}
    (meets : circumstances.Meets none outcome) :
    outcome = .unsupported := by
  cases meets
  rfl

private theorem Meets.eq_ofResult {outcome : Outcome} {wait : Nat} {result : CallResult}
    (meets : circumstances.Meets (some call) outcome)
    (ending : circumstances.undisturbed? call = some (wait, result)) :
    outcome = .ofResult result := by
  cases meets with
  | called other =>
    rw [ending] at other
    cases other
    rfl

private theorem exists_punctual (limit : Nat) (context : Context) (calm : circumstances.Calm t)
    (honest : ∀ call ∈ Document.calls document, ∀ milliseconds,
      (circumstances.gateway call).result ≠ .error (.timeout milliseconds)) :
    ∃ (step : Step String) (outcome : Document.Placeholder → Outcome),
      (circumstances.withDeadline (some limit)).render? context document t = some step ∧
      circumstances.IsPunctual context document limit t step outcome := by
  obtain ⟨step, outcome, rendered, replaces, calls, elapsed, met⟩ :=
    @exists_render?_of_calm (circumstances.withDeadline (some limit)) context document t calm
      fun _ _ => nofun
  have late : ∀ placeholder ∈ Document.scan document, ∀ call, placeholder.call? = some call →
      (circumstances.gateway call).latency.Exceeds limit →
        outcome placeholder = .failed (.timeout (min limit (2 ^ 64 - 1))) := by
    intro placeholder member call asked exceeds
    have meets := met placeholder member
    rw [asked] at meets
    exact meets.eq_ofResult (undisturbed?_of_exceeds exceeds)
  have inTime : ∀ placeholder ∈ Document.scan document, ∀ call, placeholder.call? = some call →
      ¬ (circumstances.gateway call).latency.Exceeds limit →
        outcome placeholder = .ofResult (circumstances.gateway call).result := by
    intro placeholder member call asked soon
    have meets := met placeholder member
    rw [asked] at meets
    exact meets.eq_ofResult (undisturbed?_of_later soon (by simp))
  refine ⟨step, outcome, rendered, ⟨replaces, calls, ?_, ?_, ?_, ?_, ?_⟩⟩
  · rw [elapsed]
    congr 3
    funext call
    exact duration_withDeadline circumstances limit call
  · intro placeholder member call asked
    constructor
    · intro failed
      -- A call in time comes to its answer, and no answer reports a timeout of its own.
      by_contra soon
      rw [inTime placeholder member call asked soon] at failed
      have asks : call ∈ Document.calls document := List.mem_filterMap.mpr ⟨_, member, asked⟩
      exact honest call asks _ (Outcome.eq_error_of_ofResult failed)
    · exact late placeholder member call asked
  · intro placeholder member call asked exceeds
    rw [late placeholder member call asked exceeds, Outcome.replacement_timeout]
  · intro placeholder member call asked soon
    have comes := inTime placeholder member call asked soon
    refine ⟨comes, ?_⟩
    intro fresh calm
    have ending := @undisturbed?_of_later circumstances call limit none soon nofun
    have freshCalm : (circumstances.withDeadline none).Calm fresh := calm
    rw [dispatch?_of_mem_scan member, asked, carryOut?, call?_of_calm freshCalm, call?_heedless,
      ending, comes]
    rfl
  · intro placeholder member unsupported
    have meets := met placeholder member
    rw [Document.Placeholder.call?_eq_none_iff.mpr unsupported] at meets
    exact meets.eq_unsupported

/-- A rendering with a deadline that nobody cancels ends after the time that its calls take, each
cut off at the deadline. The placeholders whose answers come later are marked with the deadline, and
the others come to what they come to without one. A rendering with a later deadline, or with none if
no call hangs, differs at most in placeholders that had failed because of the deadline. The deadline
of an invocation is the number of seconds that its arguments say, in milliseconds. -/
theorem render?_punctual (circumstances : Circumstances) (context : Context) (document : String)
    (limit : Nat) {t : Timeline} (calm : circumstances.Calm t)
    (honest : ∀ call ∈ Document.calls document, ∀ milliseconds,
      (circumstances.gateway call).result ≠ .error (.timeout milliseconds)) :
    ∃ (step : Step String) (outcome : Document.Placeholder → Outcome),
      (circumstances.withDeadline (some limit)).render? context document t = some step ∧
      circumstances.IsPunctual context document limit t step outcome ∧
      (∀ deadline : Option Nat, (∀ other ∈ deadline, limit ≤ other) →
        (deadline = none → ∀ call ∈ Document.calls document,
          (circumstances.gateway call).latency ≠ .never) →
        ∃ (laterStep : Step String) (laterOutcome : Document.Placeholder → Outcome),
          (circumstances.withDeadline deadline).render? context document t = some laterStep ∧
          Document.substitute? document
            (fun placeholder => (laterOutcome placeholder).replacement placeholder) =
              some laterStep.value ∧
          laterStep.calls = step.calls ∧
          ∀ placeholder ∈ Document.scan document,
            laterOutcome placeholder = outcome placeholder ∨
              outcome placeholder = .failed (.timeout (min limit (2 ^ 64 - 1)))) ∧
      ∀ (arguments : CommandLine.Arguments) (seconds : Nat), arguments.timeout = some seconds →
        ({ circumstances with heedful := true } : Circumstances).Calm t →
        ∃ (ownStep : Step String) (ownOutcome : Document.Placeholder → Outcome),
          Invocation.render? arguments circumstances document t = some ownStep ∧
          ({ circumstances with heedful := true } : Circumstances).IsPunctual ⟨arguments.env⟩
            document (1000 * seconds) t ownStep ownOutcome := by
  obtain ⟨step, outcome, rendered, punctual⟩ := exists_punctual limit context calm honest
  refine ⟨step, outcome, rendered, punctual, ?_, ?_⟩
  · intro deadline later hanging
    obtain ⟨laterStep, laterOutcome, laterRendered, replaces, calls, _, met⟩ :=
      @exists_render?_of_calm (circumstances.withDeadline deadline) context document t calm
        fun call asked endless => hanging endless call asked
    refine ⟨laterStep, laterOutcome, laterRendered, replaces, calls.trans punctual.calls.symm, ?_⟩
    intro placeholder member
    have meets := met placeholder member
    cases asked : placeholder.call? with
    | none =>
      have unsupported := Document.Placeholder.call?_eq_none_iff.mp asked
      rw [asked] at meets
      have untouched := punctual.untouched placeholder member unsupported
      exact .inl (meets.eq_unsupported.trans untouched.symm)
    | some call =>
      by_cases exceeds : (circumstances.gateway call).latency.Exceeds limit
      · exact .inr ((punctual.timedOut placeholder member call asked).mpr exceeds)
      · rw [asked] at meets
        refine .inl ((meets.eq_ofResult (undisturbed?_of_later exceeds later)).trans ?_)
        exact (punctual.answered placeholder member call asked exceeds).1.symm
  · intro arguments seconds given heeding
    obtain ⟨ownStep, ownOutcome, ownRendered, own⟩ :=
      exists_punctual (1000 * seconds) ⟨arguments.env⟩ heeding honest
    have deadline : arguments.deadline = some (1000 * seconds) := by
      rw [CommandLine.Arguments.deadline, given]
      rfl
    have heeded : ({ circumstances with deadline := arguments.deadline, heedful := true } :
        Circumstances).render? ⟨arguments.env⟩ document t = some ownStep := by
      rw [deadline]
      exact ownRendered
    obtain ⟨events, warned⟩ := Invocation.exists_events_of_render? heeded
    exact ⟨{ ownStep with events := events }, ownOutcome, warned, own.replaces, own.calls,
      own.elapsed, own.timedOut, own.marked, own.answered, own.untouched⟩

/-- An answer at the deadline is in time, one a millisecond later and one that never comes are not,
and the last call still has the whole deadline. -/
theorem render?_punctual_boundary :
    let world : World :=
      { stores := { parameters := [("p", "1"), ("q", "2"), ("r", "3")] }
        delays := [("p", 5), ("q", 6), ("s", 4)]
        hanging := ["r"] }
    let circumstances := world.circumstances none true
    let document := "\x7b\x7baws:ssm:p\x7d\x7d\x7b\x7baws:ssm:q\x7d\x7d" ++
      "\x7b\x7baws:ssm:r\x7d\x7d\x7b\x7baws:secretsmanager:s\x7d\x7d"
    let output := "1\x7b\x7bERROR:provider call timed out after 5ms\x7d\x7d" ++
      "\x7b\x7bERROR:provider call timed out after 5ms\x7d\x7d" ++
      "\x7b\x7bERROR:secret s not found\x7d\x7d"
    ∃ (step : Step String) (outcome : Document.Placeholder → Outcome),
      (circumstances.withDeadline (some 5)).render? {} document {} = some step ∧
      circumstances.IsPunctual {} document 5 {} step outcome ∧
      step.after.now = 19 ∧ step.value = output := by
  intro world circumstances document output
  have calm : circumstances.Calm {} := fun _ => ⟨rfl, fun _ => ⟨rfl, rfl⟩⟩
  have asked : Document.calls document =
      [.parameter "p", .parameter "q", .parameter "r", .secret "s" none] := by decide +kernel
  have honest : ∀ call ∈ Document.calls document, ∀ milliseconds,
      (circumstances.gateway call).result ≠ .error (.timeout milliseconds) := by
    rw [asked]
    simp only [List.forall_mem_cons]
    refine ⟨nofun, nofun, nofun, nofun, nofun⟩
  obtain ⟨step, outcome, rendered, punctual, _⟩ :=
    render?_punctual circumstances {} document 5 calm honest
  have shown : ((circumstances.withDeadline (some 5)).render? {} document {}).map
      (fun step => (step.after.now, step.value)) = some (19, output) := by decide +kernel
  rw [rendered] at shown
  obtain ⟨elapsed, value⟩ := Prod.mk.inj (Option.some.inj shown)
  exact ⟨step, outcome, rendered, punctual, elapsed, value⟩

end Circumstances

end Splice
