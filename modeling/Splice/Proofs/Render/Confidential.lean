import Splice.Aws.Adapter
import Splice.Aws.Library
import Splice.Proofs.Render.Account
import Splice.Proofs.Render.Exchange
import Splice.Session

/-! # Resolved values and the log

How long calls take and what adapters log does not depend on what the calls come to. Circumstances
in which they take the same time therefore make the same calls at the same instants. If moreover
every lookup succeeds in both or fails in both with the same error, nothing tells the renderings
apart but the values in their outputs. The main statement is `render?_confidential`.
-/

namespace Splice

/-- A step without its value: the calls made, the events logged and the state after it. -/
def Step.trace {α : Type} (step : Step α) : Step Unit :=
  ⟨(), step.calls, step.events, step.after⟩

/-- Two outcomes that differ at most in the value that was fetched. -/
inductive Outcome.Matches : Outcome → Outcome → Prop
  | resolved (value other : String) : Matches (.resolved value) (.resolved other)
  | failed (error : ResolveError) : Matches (.failed error) (.failed error)
  | unsupported : Matches .unsupported .unsupported

namespace Outcome.Matches

variable {outcome other : Outcome}

private theorem refl (outcome : Outcome) : outcome.Matches outcome := by
  cases outcome <;> constructor

private theorem events_eq (same : outcome.Matches other) (offset : Nat) :
    other.events offset = outcome.events offset := by
  cases same <;> rfl

private theorem isResolved_eq (same : outcome.Matches other) :
    other.isResolved = outcome.isResolved := by
  cases same <;> rfl

private theorem isFailed_eq (same : outcome.Matches other) : other.isFailed = outcome.isFailed := by
  cases same <;> rfl

private theorem isUnsupported_eq (same : outcome.Matches other) :
    other.isUnsupported = outcome.isUnsupported := by
  cases same <;> rfl

end Outcome.Matches

/-- Two visits of a placeholder that leave the same trace, with outcomes that fit. -/
structure Visit.Tracks (Fits : Outcome → Outcome → Prop) (visit followed : Visit) : Prop where
  placeholder : followed.placeholder = visit.placeholder
  trace : followed.step.trace = visit.step.trace
  outcome : Fits visit.step.value followed.step.value

namespace Circumstances

/-- Two circumstances in which every call takes the same time and is logged in the same way,
whatever it comes to. -/
structure Paces (first second : Circumstances) : Prop where
  deadline : second.deadline = first.deadline
  heedful : second.heedful = first.heedful
  cancelOnCall : second.cancelOnCall = first.cancelOnCall
  latency : ∀ call, (second.gateway call).latency = (first.gateway call).latency
  events : ∀ call, (second.gateway call).events = (first.gateway call).events

/-- What two gateways answer to a call: a value each, or the same error. -/
def AnswersMatch (first second : Circumstances) (call : Call) : Prop :=
  (Outcome.ofResult (first.gateway call).result).Matches (.ofResult (second.gateway call).result)

/-- Every lookup of a rendering that is under way in the first circumstances comes to a value in
both, or to the same error. A lookup that is cut off in both fails in both. -/
def LookupsMatch (second : Circumstances) (context : Context) (visits : List Visit) : Prop :=
  ∀ visit ∈ visits, ∀ followed,
    second.dispatch? context visit.placeholder.inner visit.before = some followed →
      visit.step.value.Matches followed.value

/-- What a call comes to in two circumstances: the same, or the answers of both gateways. -/
def Parallel (first second : Circumstances) (call : Call) (result other : CallResult) : Prop :=
  other = result ∨
    (result = (first.gateway call).result ∧ other = (second.gateway call).result)

private theorem Parallel.outcomes {first second : Circumstances} {call : Call}
    {result other : CallResult}
    (parallel : first.Parallel second call result other) (alike : first.AnswersMatch second call) :
    (Outcome.ofResult result).Matches (.ofResult other) := by
  rcases parallel with rfl | ⟨rfl, rfl⟩
  · exact .refl _
  · exact alike

namespace Paces

variable {first second : Circumstances} {context : Context} {t : Timeline}

private theorem undisturbed? (paces : first.Paces second) (call : Call) :
    Option.Rel (fun ending other => other.1 = ending.1 ∧
        first.Parallel second call ending.2 other.2)
      (first.undisturbed? call) (second.undisturbed? call) := by
  unfold Circumstances.undisturbed?
  dsimp only
  rw [paces.latency, paces.deadline]
  cases (first.gateway call).latency with
  | after delay =>
    cases first.deadline with
    | none => exact .some ⟨rfl, .inr ⟨rfl, rfl⟩⟩
    | some limit =>
      dsimp only
      split
      · exact .some ⟨rfl, .inr ⟨rfl, rfl⟩⟩
      · exact .some ⟨rfl, .inl rfl⟩
  | never =>
    cases first.deadline with
    | none => exact .none
    | some limit => exact .some ⟨rfl, .inl rfl⟩

private theorem await? (paces : first.Paces second) (call : Call) (t : Timeline) :
    Option.Rel (fun ending other => first.Parallel second call ending.1 other.1 ∧
        other.2 = ending.2)
      (first.await? call t) (second.await? call t) := by
  have ends := paces.undisturbed? call
  unfold Circumstances.await?
  rw [paces.heedful]
  generalize (if first.heedful then t.interruption? else none) = interruption
  generalize first.undisturbed? call = ending at ends ⊢
  generalize second.undisturbed? call = other at ends ⊢
  cases ends with
  | none =>
    cases interruption with
    | none => exact .none
    | some instant => exact .some ⟨.inl rfl, rfl⟩
  | @some ending other same =>
    obtain ⟨wait, result⟩ := ending
    obtain ⟨otherWait, otherResult⟩ := other
    obtain ⟨sameWait, parallel⟩ := same
    obtain rfl : otherWait = wait := sameWait
    cases otherWait with
    | zero =>
      -- A call that needs no waiting cannot be cut off.
      exact .some ⟨parallel, rfl⟩
    | succ wait =>
      cases interruption with
      | none => exact .some ⟨parallel, rfl⟩
      | some instant =>
        by_cases inTime : t.now + (wait + 1) < instant
        · simp only [if_pos inTime]
          exact .some ⟨parallel, rfl⟩
        · simp only [if_neg inTime]
          exact .some ⟨.inl rfl, rfl⟩

/-- A call leaves the same trace in both circumstances. What it comes to is another matter only if
it was made and the gateways answer differently. -/
private theorem call? (paces : first.Paces second) (call : Call) (t : Timeline) :
    Option.Rel (fun step followed => followed.trace = step.trace ∧
        (followed.value = step.value ∨ call ∈ step.calls ∧
          first.Parallel second call step.value followed.value))
      (first.call? call t) (second.call? call t) := by
  unfold Circumstances.call?
  rw [paces.heedful, paces.cancelOnCall]
  split
  · exact .some ⟨rfl, .inl rfl⟩
  · have ends := paces.await? call (t.begin first.cancelOnCall)
    generalize first.await? call _ = ending at ends ⊢
    generalize second.await? call _ = other at ends ⊢
    cases ends with
    | none => exact .none
    | some same =>
      obtain ⟨parallel, after⟩ := same
      refine .some ⟨?_, .inr ⟨List.mem_singleton_self call, parallel⟩⟩
      simp only [Step.trace, paces.events, after]

private theorem carryOut? (paces : first.Paces second) (asked : Option Call) (t : Timeline) :
    Option.Rel (fun step followed => followed.trace = step.trace ∧
        ((∀ call ∈ step.calls, first.AnswersMatch second call) →
          step.value.Matches followed.value))
      (first.carryOut? t asked) (second.carryOut? t asked) := by
  cases asked with
  | none => exact .some ⟨rfl, fun _ => .unsupported⟩
  | some call =>
    have called := paces.call? call t
    simp only [Circumstances.carryOut?]
    generalize first.call? call t = made at called ⊢
    generalize second.call? call t = otherMade at called ⊢
    cases called with
    | none => exact .none
    | some both =>
      obtain ⟨same, comes⟩ := both
      refine .some ⟨?_, fun alike => ?_⟩
      · exact congrArg (fun trace : Step Unit =>
          (⟨(), trace.calls, .dispatching call.provider :: trace.events, trace.after⟩ :
            Step Unit)) same
      · change (Outcome.ofResult _).Matches (.ofResult _)
        rcases comes with same | ⟨made, parallel⟩
        · rw [same]
          exact .refl _
        · exact parallel.outcomes (alike call made)

/-- A course can be followed in circumstances of the same pace: the placeholders are visited in the
same states, and leave the same traces. What else is known of the lookups holds of the outcomes. -/
private theorem follow (paces : first.Paces second) {document : String} {visits : List Visit}
    {target : Timeline} (Fits : Outcome → Outcome → Prop)
    (course : first.Course context t visits target)
    (members : ∀ visit ∈ visits, visit.placeholder ∈ Document.scan document)
    (fits : ∀ visit ∈ visits, ∀ followed,
      second.dispatch? context visit.placeholder.inner visit.before = some followed →
        Fits visit.step.value followed.value) :
    ∃ others, second.Course context t others target ∧
      List.Forall₂ (Visit.Tracks Fits) visits others := by
  have follows : ∀ visit ∈ visits, ∀ before, visit.before = before →
      first.dispatch? context visit.placeholder.inner visit.before = some visit.step →
      ∃ followed, second.dispatch? context visit.placeholder.inner before = some followed ∧
        (followed.trace = visit.step.trace ∧ Fits visit.step.value followed.value) ∧
        visit.step.after = followed.after := by
    rintro visit visiting _ rfl dispatched
    have fit := fits visit visiting
    rw [dispatch?_of_mem_scan (members visit visiting)] at dispatched fit ⊢
    have both := paces.carryOut? visit.placeholder.call? visit.before
    rw [dispatched] at both
    generalize second.carryOut? visit.before visit.placeholder.call? = other at both fit ⊢
    cases both with
    | some both => exact ⟨_, rfl, ⟨both.1, fit _ rfl⟩, (congrArg Step.after both.1).symm⟩
  obtain ⟨others, _, otherCourse, alike, rfl⟩ := @Course.simulate first context _ _ _ second context
    _ (fun step followed => followed.trace = step.trace ∧ Fits step.value followed.value) _ course
    follows rfl
  refine ⟨others, otherCourse, alike.imp ?_⟩
  rintro visit followed ⟨placeholder, trace, outcome⟩
  exact ⟨placeholder, trace, outcome⟩

private theorem lookupsMatch (paces : first.Paces second) {document : String} {visits : List Visit}
    {target : Timeline} (course : first.Course context t visits target)
    (members : ∀ visit ∈ visits, visit.placeholder ∈ Document.scan document)
    (alike : ∀ call ∈ visits.flatMap (·.step.calls), first.AnswersMatch second call) :
    LookupsMatch second context visits := by
  intro visit visiting followed otherDispatched
  have dispatched := course.dispatched visit visiting
  rw [dispatch?_of_mem_scan (members visit visiting)] at dispatched otherDispatched
  have both := paces.carryOut? visit.placeholder.call? visit.before
  rw [dispatched, otherDispatched] at both
  cases both with
  | some both =>
    exact both.2 fun call made => alike call (List.mem_flatMap.mpr ⟨visit, visiting, made⟩)

end Paces

end Circumstances

namespace Document

variable {document : String} {visits others : List Visit}

/-- Visits that leave the same traces are visits of the same placeholders, and make the same
calls. -/
theorem calls_of_tracks {Fits : Outcome → Outcome → Prop}
    (alike : List.Forall₂ (Visit.Tracks Fits) visits others) :
    others.map Visit.placeholder = visits.map Visit.placeholder ∧
      others.flatMap (·.step.calls) = visits.flatMap (·.step.calls) := by
  induction alike with
  | nil => exact ⟨rfl, rfl⟩
  | cons head _ ih =>
    have calls := congrArg Step.calls head.trace
    simp only [Step.trace] at calls
    simp only [List.map_cons, List.flatMap_cons, ih, head.placeholder, calls, and_self]

private theorem events_of_tracks
    (alike : List.Forall₂ (Visit.Tracks Outcome.Matches) visits others) :
    others.flatMap Visit.events = visits.flatMap Visit.events := by
  induction alike with
  | nil => rfl
  | cons head _ ih =>
    have events := congrArg Step.events head.trace
    simp only [Step.trace] at events
    simp only [List.flatMap_cons, ih, Visit.events, head.placeholder, events,
      head.outcome.events_eq]

private theorem countP_of_tracks {kind : Outcome → Bool}
    (same : ∀ outcome other : Outcome, outcome.Matches other → kind other = kind outcome)
    (alike : List.Forall₂ (Visit.Tracks Outcome.Matches) visits others) :
    (others.map (·.step.value)).countP kind = (visits.map (·.step.value)).countP kind := by
  induction alike with
  | nil => rfl
  | cons head _ ih => simp only [List.map_cons, List.countP_cons, ih, same _ _ head.outcome]

private theorem events_report (after : Timeline)
    (visited : visits.map Visit.placeholder = scan document)
    (alike : List.Forall₂ (Visit.Tracks Outcome.Matches) visits others) :
    (report document others after).events = (report document visits after).events := by
  have otherVisited := (calls_of_tracks alike).1.trans visited
  simp only [report, events_of_tracks alike, Filled.summary_ofOutcomes (length_outcomes visited),
    Filled.summary_ofOutcomes (length_outcomes otherVisited),
    countP_of_tracks (fun _ _ same => same.isResolved_eq) alike,
    countP_of_tracks (fun _ _ same => same.isFailed_eq) alike,
    countP_of_tracks (fun _ _ same => same.isUnsupported_eq) alike]

private theorem substitute?_of_tracks (after : Timeline)
    (visited : visits.map Visit.placeholder = scan document)
    (alike : List.Forall₂ (Visit.Tracks Outcome.Matches) visits others) :
    ∃ outcome other : Placeholder → Outcome,
      (∀ visit ∈ visits, visit.step.value = outcome visit.placeholder) ∧
      (∀ placeholder ∈ scan document, (outcome placeholder).Matches (other placeholder)) ∧
      substitute? document (fun placeholder => (outcome placeholder).replacement placeholder) =
        some (report document visits after).value ∧
      substitute? document (fun placeholder => (other placeholder).replacement placeholder) =
        some (report document others after).value := by
  have otherVisited := (calls_of_tracks alike).1.trans visited
  obtain ⟨outcome, comes⟩ := exists_outcome visited
  obtain ⟨other, otherComes⟩ := exists_outcome otherVisited
  have outcomes : List.Forall₂ Outcome.Matches (visits.map (·.step.value))
      (others.map (·.step.value)) :=
    List.forall₂_map_left_iff.mpr (List.forall₂_map_right_iff.mpr
      (alike.imp fun _ _ tracks => tracks.outcome))
  rw [outcomes_eq_map visited comes, outcomes_eq_map otherVisited otherComes,
    List.forall₂_map_left_iff, List.forall₂_map_right_iff, List.forall₂_same] at outcomes
  exact ⟨outcome, other, comes, outcomes, substitute?_report visited comes,
    substitute?_report otherVisited otherComes⟩

end Document

namespace Circumstances

private theorem paces_world {world other : World} (deadline : Option Nat) (heedful : Bool)
    (delays : other.delays = world.delays) (hanging : other.hanging = world.hanging)
    (cancelOnCall : other.cancelOnCall = world.cancelOnCall) :
    (world.circumstances deadline heedful).Paces (other.circumstances deadline heedful) where
  deadline := rfl
  heedful := rfl
  cancelOnCall := cancelOnCall
  latency call := by simp only [World.circumstances, World.gateway, delays, hanging]
  events _ := rfl

/-- A lookup at a service is announced before its answer is there. -/
private theorem paces_service (circumstances : Circumstances) (client : Aws.Client)
    (service other : Aws.Service) (latency : Call → Latency) :
    (circumstances.asking ((Aws.gateway client service).paced latency)).Paces
      (circumstances.asking ((Aws.gateway client other).paced latency)) where
  deadline := rfl
  heedful := rfl
  cancelOnCall := rfl
  latency _ := rfl
  events _ := rfl

namespace Paces

variable {first second : Circumstances}

private theorem symm (paces : first.Paces second) : second.Paces first where
  deadline := paces.deadline.symm
  heedful := paces.heedful.symm
  cancelOnCall := paces.cancelOnCall.symm
  latency call := (paces.latency call).symm
  events call := (paces.events call).symm

private theorem render? (paces : first.Paces second) {context : Context} {document : String}
    {t : Timeline} {step : Step String}
    (rendered : first.render? context document t = some step) :
    ∃ followed, second.render? context document t = some followed ∧
      followed.calls = step.calls ∧ followed.after = step.after := by
  obtain ⟨visits, after, course, visited, rfl⟩ := render?_eq_some_iff.mp rendered
  obtain ⟨others, otherCourse, alike⟩ := paces.follow (fun _ _ => True) course
    (Document.mem_scan_of_visited visited) fun _ _ _ _ => trivial
  obtain ⟨placeholders, calls⟩ := Document.calls_of_tracks alike
  exact ⟨_, render?_eq_some_iff.mpr
    ⟨others, after, otherCourse, placeholders.trans visited, rfl⟩, calls, rfl⟩

private theorem render?_eq_none (paces : first.Paces second) {context : Context} {document : String}
    {t : Timeline} (endless : second.render? context document t = none) :
    first.render? context document t = none := by
  cases rendered : first.render? context document t with
  | none => rfl
  | some step =>
    obtain ⟨followed, otherRendered, _⟩ := paces.render? rendered
    rw [endless] at otherRendered
    contradiction

end Paces

/-- Two worlds with the same delays, and two services with answers that take the same time, make
circumstances of the same pace: renderings make the same calls, in the same order, and take the same
time, and both end or neither. If every lookup comes to a value in both, or to the same error, then
the logs are the same, event by event, and the outputs are the same but for the values of the
placeholders that were resolved. It is enough that the gateways answer alike to the calls that are
made. -/
theorem render?_confidential :
    (∀ (world other : World) (deadline : Option Nat) (heedful : Bool),
      other.delays = world.delays → other.hanging = world.hanging →
      other.cancelOnCall = world.cancelOnCall →
        (world.circumstances deadline heedful).Paces (other.circumstances deadline heedful)) ∧
    (∀ (circumstances : Circumstances) (client : Aws.Client) (service other : Aws.Service)
      (latency : Call → Latency),
      (circumstances.asking ((Aws.gateway client service).paced latency)).Paces
        (circumstances.asking ((Aws.gateway client other).paced latency))) ∧
    ∀ (first second : Circumstances), first.Paces second →
      ∀ (context : Context) (document : String) (t : Timeline),
        (first.render? context document t = none ↔ second.render? context document t = none) ∧
        ∀ step followed, first.render? context document t = some step →
          second.render? context document t = some followed →
          followed.calls = step.calls ∧ followed.after = step.after ∧
          ∃ visits, first.Course context t visits step.after ∧
            visits.map Visit.placeholder = Document.scan document ∧
            ((∀ call ∈ step.calls, first.AnswersMatch second call) →
              LookupsMatch second context visits) ∧
            (LookupsMatch second context visits →
              followed.events = step.events ∧
              ∃ outcome other : Document.Placeholder → Outcome,
                (∀ visit ∈ visits, visit.step.value = outcome visit.placeholder) ∧
                (∀ placeholder ∈ Document.scan document,
                  (outcome placeholder).Matches (other placeholder)) ∧
                Document.substitute? document
                  (fun placeholder => (outcome placeholder).replacement placeholder) =
                    some step.value ∧
                Document.substitute? document
                  (fun placeholder => (other placeholder).replacement placeholder) =
                    some followed.value) := by
  refine ⟨fun world other deadline heedful => paces_world deadline heedful, paces_service, ?_⟩
  intro first second paces context document t
  refine ⟨⟨paces.symm.render?_eq_none, paces.render?_eq_none⟩, ?_⟩
  intro step followed rendered otherRendered
  obtain ⟨_, same, calls, ends⟩ := paces.render? rendered
  obtain rfl := Option.some.inj (otherRendered.symm.trans same)
  obtain ⟨visits, after, course, visited, rfl⟩ := render?_eq_some_iff.mp rendered
  have members := Document.mem_scan_of_visited visited
  refine ⟨calls, ends, visits, course, visited, paces.lookupsMatch course members, ?_⟩
  intro lookups
  obtain ⟨others, otherCourse, alike⟩ := paces.follow Outcome.Matches course members lookups
  have otherVisited := (Document.calls_of_tracks alike).1.trans visited
  have reported := render?_eq_some_iff.mpr ⟨others, after, otherCourse, otherVisited, rfl⟩
  obtain rfl := Option.some.inj (otherRendered.symm.trans reported)
  exact ⟨Document.events_report after visited alike,
    Document.substitute?_of_tracks after visited alike⟩

/-- Two services that know different values, and neither of which can be reached for a secret. -/
theorem render?_confidential_fetching :
    let holding (value : String) : Aws.Service
      | .getParameter .., _ => .value value
      | .getSecretValue _, _ => .unreachable "reset"
    let client := Aws.Library.client 0
    let circumstances (value : String) : Circumstances :=
      { gateway := (Aws.gateway client (holding value)).paced fun _ => .after 5
        deadline := some 9 }
    let document := "{{aws:ssm:p}}{{aws:secretsmanager:s#k}}"
    ∃ step followed : Step String,
      (circumstances "v").render? {} document {} = some step ∧
      (circumstances "longer").render? {} document {} = some followed ∧
      step.value = "v{{ERROR:unhandled error: dispatch failure: reset}}" ∧
      followed.value = "longer{{ERROR:unhandled error: dispatch failure: reset}}" ∧
      followed.events = step.events ∧
      step.events = [.dispatching .ssm, .fetchingParameter "p", .resolved 0,
        .dispatching .secretsManager, .fetchingSecret "s" true,
        .failed 13 (.transport "unhandled error: dispatch failure: reset"), .rendered 1 1 0] := by
  intro holding client circumstances document
  -- What the services hold is no part of how their answers are timed and logged.
  have paces : (circumstances "v").Paces (circumstances "longer") :=
    render?_confidential.2.1 (circumstances "v") client (holding "v") (holding "longer")
      fun _ => .after 5
  have shown : ((circumstances "v").render? {} document {}).map
      (fun step => (step.value, step.calls, step.events)) =
      some ("v{{ERROR:unhandled error: dispatch failure: reset}}",
        [.parameter "p", .secret "s" (some "k")],
        [.dispatching .ssm, .fetchingParameter "p", .resolved 0,
          .dispatching .secretsManager, .fetchingSecret "s" true,
          .failed 13 (.transport "unhandled error: dispatch failure: reset"),
          .rendered 1 1 0]) := by
    decide +kernel
  have otherShown : ((circumstances "longer").render? {} document {}).map Step.value =
      some "longer{{ERROR:unhandled error: dispatch failure: reset}}" := by decide +kernel
  obtain ⟨step, rendered, same⟩ := Option.map_eq_some_iff.mp shown
  obtain ⟨followed, otherRendered, otherValue⟩ := Option.map_eq_some_iff.mp otherShown
  have calls : step.calls = [.parameter "p", .secret "s" (some "k")] :=
    congrArg (fun shown => shown.2.1) same
  have answers : ∀ call ∈ step.calls,
      (circumstances "v").AnswersMatch (circumstances "longer") call := by
    rw [calls]
    simp only [List.forall_mem_cons]
    exact ⟨.resolved "v" "longer",
      .failed (.transport "unhandled error: dispatch failure: reset"), nofun⟩
  obtain ⟨_, _, _, _, _, lookups, confidential⟩ :=
    (render?_confidential.2.2 _ _ paces {} document {}).2 step followed rendered otherRendered
  exact ⟨step, followed, rendered, otherRendered, congrArg (fun shown => shown.1) same, otherValue,
    (confidential (lookups answers)).1, congrArg (fun shown => shown.2.2) same⟩

end Circumstances

end Splice
