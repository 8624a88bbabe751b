import Splice.Proofs.Call
import Splice.Proofs.Reference
import Splice.Proofs.Render.Course
import Splice.Session

/-! # Renderings and their context

A placeholder of a document opens no action, so nothing that it does depends on the context. The
main statement, `render?_context_free`, compares renderings in different contexts, and says for
which calls a rendering asks and where a failed expression in it comes from.
-/

namespace Splice.Circumstances

variable {circumstances : Circumstances} {context : Context} {document : String} {t : Timeline}

private theorem evaluate_of_mem_scan {placeholder : Document.Placeholder} {reference : Reference}
    (member : placeholder ∈ Document.scan document)
    (written : reference.IsWritten placeholder.inner) (context : Context) :
    PathTemplate.evaluate reference.path context = .ok reference.path := by
  have parsed := Reference.parse?_eq_some_iff.mpr written
  apply PathTemplate.evaluate_of_literal
  intro opening
  have inside := opening.trans (Reference.path_infix_of_parse? parsed)
  exact Document.literal_of_mem_scan member inside

/-- A placeholder asks for the call that is written in it. -/
theorem call?_eq_some_iff {placeholder : Document.Placeholder} {call : Call} :
    placeholder.call? = some call ↔ ∃ reference : Reference,
      reference.IsWritten placeholder.inner ∧ reference.call reference.path = call := by
  simp only [Document.Placeholder.call?, Option.map_eq_some_iff, Reference.parse?_eq_some_iff]

private theorem mem_calls_carryOut? {placeholder : Document.Placeholder} {step : Step Outcome}
    {call : Call}
    (done : circumstances.carryOut? t placeholder.call? = some step) (made : call ∈ step.calls) :
    placeholder.call? = some call := by
  cases asked : placeholder.call? with
  | none =>
    rw [asked] at done
    cases done
    contradiction
  | some expected =>
    rw [asked] at done
    obtain ⟨called, ended, rfl⟩ := Option.map_eq_some_iff.mp done
    exact congrArg some (eq_of_mem_calls ended made).symm

private theorem gateway_of_carryOut?_expression {asked : Option Call} {step : Step Outcome}
    {error : ExpressionError} (done : circumstances.carryOut? t asked = some step)
    (failed : step.value = .failed (.expression error)) :
    ∃ call, step.calls = [call] ∧
      (circumstances.gateway call).result = .error (.expression error) := by
  cases asked with
  | none =>
    cases done
    contradiction
  | some call =>
    obtain ⟨called, ended, rfl⟩ := Option.map_eq_some_iff.mp done
    have value : called.value = .error (.expression error) := Outcome.eq_error_of_ofResult failed
    rcases call?_value_cases ended with ⟨answered, made⟩ | ⟨milliseconds, late⟩ | cancelled
    · exact ⟨call, made, answered.symm.trans value⟩
    · cases late.symm.trans value
    · cases cancelled.symm.trans value

private theorem Course.change_context {visits : List Visit} {target : Timeline}
    (course : circumstances.Course context t visits target)
    (members : ∀ visit ∈ visits, visit.placeholder ∈ Document.scan document) (other : Context) :
    circumstances.Course other t visits target := by
  apply course.transfer
  intro visit visiting
  have dispatched := course.dispatched visit visiting
  rwa [dispatch?_of_mem_scan (members visit visiting)] at dispatched ⊢

private theorem render?_change_context {step : Step String}
    (rendered : circumstances.render? context document t = some step) (other : Context) :
    circumstances.render? other document t = some step := by
  obtain ⟨visits, after, course, visited, rfl⟩ := render?_eq_some_iff.mp rendered
  have members := Document.mem_scan_of_visited visited
  exact render?_eq_some_iff.mpr ⟨visits, after, course.change_context members other, visited, rfl⟩

/-- The calls of a rendering are those that are written in its document, each for the value of the
path of a placeholder. -/
theorem exists_reference_of_mem_calls {step : Step String} {call : Call}
    (rendered : circumstances.render? context document t = some step) (made : call ∈ step.calls) :
    ∃ placeholder ∈ Document.scan document, ∃ reference : Reference,
      reference.IsWritten placeholder.inner ∧
      PathTemplate.evaluate reference.path context = .ok call.key ∧
      reference.call call.key = call := by
  obtain ⟨visits, after, course, visited, rfl⟩ := render?_eq_some_iff.mp rendered
  obtain ⟨visit, visiting, made⟩ := List.mem_flatMap.mp made
  have member := Document.mem_scan_of_visited visited visit visiting
  have dispatched := course.dispatched visit visiting
  rw [dispatch?_of_mem_scan member] at dispatched
  obtain ⟨reference, written, rfl⟩ := call?_eq_some_iff.mp (mem_calls_carryOut? dispatched made)
  have key := reference.key_call reference.path
  refine ⟨visit.placeholder, member, reference, written, ?_, ?_⟩
  · rw [key]
    exact evaluate_of_mem_scan member written context
  · rw [key]

/-- A rendering does not depend on its context: neither its output nor its calls, its log or the
time that it takes. The paths of placeholders are their own values, a placeholder makes no call but
the one that is written in it, and it fails with an expression only if its call was answered so. -/
theorem render?_context_free (circumstances : Circumstances) (document : String) (t : Timeline) :
    (∀ first second : Context,
      circumstances.render? first document t = circumstances.render? second document t) ∧
    (∀ placeholder ∈ Document.scan document, ∀ reference : Reference,
      reference.IsWritten placeholder.inner →
        ∀ context, PathTemplate.evaluate reference.path context = .ok reference.path) ∧
    ∀ context step, circumstances.render? context document t = some step →
      ∃ visits, circumstances.Course context t visits step.after ∧
        visits.map Visit.placeholder = Document.scan document ∧
        step = Document.report document visits step.after ∧
        (∀ visit ∈ visits, ∀ call ∈ visit.step.calls, ∃ reference : Reference,
          reference.IsWritten visit.placeholder.inner ∧ reference.call reference.path = call) ∧
        ∀ visit ∈ visits, ∀ error, visit.step.value = .failed (.expression error) →
          ∃ call, visit.step.calls = [call] ∧
            (circumstances.gateway call).result = .error (.expression error) := by
  refine ⟨?_, fun _ member _ written => evaluate_of_mem_scan member written, ?_⟩
  · intro first second
    apply Option.ext
    intro step
    exact ⟨fun rendered => render?_change_context rendered second,
      fun rendered => render?_change_context rendered first⟩
  · intro context step rendered
    obtain ⟨visits, after, course, visited, rfl⟩ := render?_eq_some_iff.mp rendered
    have members := Document.mem_scan_of_visited visited
    have carriedOut : ∀ visit ∈ visits,
        circumstances.carryOut? visit.before visit.placeholder.call? = some visit.step := by
      intro visit visiting
      rw [← dispatch?_of_mem_scan (members visit visiting)]
      exact course.dispatched visit visiting
    refine ⟨visits, course, visited, rfl, ?_, ?_⟩
    · intro visit visiting call made
      exact call?_eq_some_iff.mp (mem_calls_carryOut? (carriedOut visit visiting) made)
    · intro visit visiting error failed
      exact gateway_of_carryOut?_expression (carriedOut visit visiting) failed

/-- The environment name in a path is plain text, and a key stays out of the name. -/
theorem render?_context_free_key :
    let world : World := { stores := { secrets := [("/env/db", some "\x7b\"k\": \"v\"\x7d")] } }
    let circumstances := world.circumstances none false
    let document := "\x7b\x7baws:secretsmanager:/env/db#k\x7d\x7d"
    ∃ step : Step String,
      circumstances.render? ⟨"DEV"⟩ document {} = some step ∧
      circumstances.render? ⟨"PROD"⟩ document {} = some step ∧
      step.value = "v" ∧ step.calls = [.secret "/env/db" (some "k")] ∧
      ∃ visits, circumstances.Course ⟨"DEV"⟩ {} visits step.after ∧
        visits.map Visit.placeholder = Document.scan document := by
  intro world circumstances document
  have rendered : (circumstances.render? ⟨"DEV"⟩ document {}).map
      (fun step => (step.value, step.calls)) =
      some ("v", [.secret "/env/db" (some "k")]) := by decide +kernel
  obtain ⟨step, ended, shown⟩ := Option.map_eq_some_iff.mp rendered
  obtain ⟨same, _, visited⟩ := render?_context_free circumstances document {}
  obtain ⟨visits, course, placeholders, _⟩ := visited ⟨"DEV"⟩ step ended
  exact ⟨step, ended, (same ⟨"PROD"⟩ ⟨"DEV"⟩).trans ended, congrArg Prod.fst shown,
    congrArg Prod.snd shown, visits, course, placeholders⟩

/-- A provider that answers with a failed expression makes a placeholder fail with one. -/
theorem render?_expression_of_gateway :
    let world : World := { failures := [("/p", .expression (.parse "remote"))] }
    ∃ step : Step String,
      (world.circumstances none false).render? {} "\x7b\x7baws:ssm:/p\x7d\x7d" {} = some step ∧
      step.value = "\x7b\x7bERROR:template parse error: remote\x7d\x7d" ∧
      .failed 0 (.expression (.parse "remote")) ∈ step.events := by
  intro world
  have rendered : ((world.circumstances none false).render? {} "\x7b\x7baws:ssm:/p\x7d\x7d" {}).map
      (fun step => (step.value, step.events)) =
      some ("\x7b\x7bERROR:template parse error: remote\x7d\x7d",
        [.dispatching .ssm, .failed 0 (.expression (.parse "remote")), .rendered 0 1 0]) := by
    decide +kernel
  obtain ⟨step, ended, shown⟩ := Option.map_eq_some_iff.mp rendered
  refine ⟨step, ended, congrArg Prod.fst shown, ?_⟩
  have events : step.events = _ := congrArg Prod.snd shown
  rw [events]
  simp

end Splice.Circumstances
