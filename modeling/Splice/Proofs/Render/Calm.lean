import Splice.Proofs.Call
import Splice.Proofs.Render.Course
import Splice.Session

/-! # Renderings that nobody cancels

`fate?` says what becomes of a placeholder without mentioning time. A rendering that nobody cancels
puts the fate of every placeholder in its place, and makes the calls that its document asks for.
-/

namespace Splice.Circumstances

variable {circumstances : Circumstances} {context : Context} {inner : String} {t : Timeline}

/-- What becomes of the inner text of a placeholder that nobody disturbs; nothing if its call
hangs. -/
def fate? (circumstances : Circumstances) (context : Context) (inner : String) : Option Outcome :=
  match Reference.parse? inner with
  | none => some .unsupported
  | some reference =>
    match PathTemplate.evaluate reference.path context with
    | .error error => some (.failed (.expression error))
    | .ok target =>
      (circumstances.undisturbed? (reference.call target)).map fun (_, result) => .ofResult result

/-- A placeholder that nobody disturbs meets its fate whenever it is dispatched. -/
theorem dispatch?_of_calm (calm : circumstances.Calm t) :
    (circumstances.dispatch? context inner t).map Step.value =
      circumstances.fate? context inner := by
  unfold dispatch? fate?
  cases Reference.parse? inner with
  | none => rfl
  | some reference =>
    simp only [resolve?]
    cases PathTemplate.evaluate reference.path context with
    | error error => rfl
    | ok target =>
      simp only [call?_of_calm calm, call?_heedless, Option.map_map]
      rfl

/-- Nobody has cancelled after a placeholder of a document if nobody did before. -/
theorem Calm.after_carryOut? {call : Option Call} {step : Step Outcome}
    (calm : circumstances.Calm t) (done : circumstances.carryOut? t call = some step) :
    circumstances.Calm step.after := by
  cases call with
  | none =>
    cases done
    exact calm
  | some call =>
    obtain ⟨called, made, rfl⟩ := Option.map_eq_some_iff.mp done
    exact calm.after_call? made

/-- The call of a placeholder is made unless somebody cancels. -/
theorem calls_carryOut?_of_calm {call : Option Call} {step : Step Outcome}
    (calm : circumstances.Calm t) (done : circumstances.carryOut? t call = some step) :
    step.calls = call.toList := by
  cases call with
  | none =>
    cases done
    rfl
  | some call =>
    obtain ⟨called, made, rfl⟩ := Option.map_eq_some_iff.mp done
    rw [call?_of_calm calm, call?_heedless] at made
    obtain ⟨_, _, rfl⟩ := Option.map_eq_some_iff.mp made
    rfl

private theorem exists_carryOut? {call : Option Call} (t : Timeline)
    (answered : ∀ made ∈ call, circumstances.deadline = none →
      (circumstances.gateway made).latency ≠ .never) :
    ∃ step, circumstances.carryOut? t call = some step := by
  cases call with
  | none => exact ⟨_, rfl⟩
  | some call =>
    obtain ⟨step, called⟩ := exists_call? t (answered call rfl)
    rw [carryOut?, called]
    exact ⟨_, rfl⟩

/-- A placeholder of a document is dispatched if its call does not hang. -/
theorem exists_dispatch? {document : String}
    (answered : ∀ call ∈ Document.calls document, circumstances.deadline = none →
      (circumstances.gateway call).latency ≠ .never)
    {placeholder : Document.Placeholder} (member : placeholder ∈ Document.scan document)
    (t : Timeline) : ∃ step, circumstances.dispatch? context placeholder.inner t = some step := by
  rw [dispatch?_of_mem_scan member]
  apply exists_carryOut?
  intro call asked
  exact answered call (List.mem_filterMap.mpr ⟨placeholder, member, asked⟩)

/-- A rendering that nobody cancels, and of which no call hangs, puts in the place of every
placeholder what becomes of it alone, and keeps the rest of its document. It makes the calls that
the placeholders ask for, one after the other, whatever the answers are. -/
theorem render?_of_calm {document : String} (calm : circumstances.Calm t)
    (answered : ∀ call ∈ Document.calls document, circumstances.deadline = none →
      (circumstances.gateway call).latency ≠ .never) :
    ∃ (step : Step String) (outcome : Document.Placeholder → Outcome),
      circumstances.render? context document t = some step ∧
      Document.substitute? document
        (fun placeholder => (outcome placeholder).replacement placeholder) = some step.value ∧
      step.calls = Document.calls document ∧
      ∀ placeholder ∈ Document.scan document,
        circumstances.fate? context placeholder.inner = some (outcome placeholder) ∧
        ∀ fresh, circumstances.Calm fresh →
          (circumstances.dispatch? context placeholder.inner fresh).map Step.value =
            some (outcome placeholder) := by
  have advances : ∀ placeholder ∈ Document.scan document, ∀ t, circumstances.Calm t →
      ∃ step, circumstances.dispatch? context placeholder.inner t = some step ∧
        (circumstances.fate? context placeholder.inner = some step.value ∧
          step.calls = placeholder.call?.toList) ∧ circumstances.Calm step.after := by
    intro placeholder member t calm
    obtain ⟨step, dispatched⟩ := @exists_dispatch? _ context _ answered _ member t
    have done : circumstances.carryOut? t placeholder.call? = some step :=
      (dispatch?_of_mem_scan member).symm.trans dispatched
    refine ⟨step, dispatched, ⟨?_, calls_carryOut?_of_calm calm done⟩, calm.after_carryOut? done⟩
    rw [← dispatch?_of_calm calm, dispatched, Option.map_some]
  obtain ⟨visits, after, course, visited, fits⟩ := exists_course advances calm
  obtain ⟨outcome, comes⟩ := Document.exists_outcome visited
  refine ⟨Document.report document visits after, outcome,
    render?_eq_some_iff.mpr ⟨visits, after, course, visited, rfl⟩,
    Document.substitute?_report visited comes, ?_, ?_⟩
  · calc visits.flatMap (·.step.calls)
      _ = visits.flatMap (·.placeholder.call?.toList) :=
        List.flatMap_congr fun visit member => (fits visit member).2
      _ = (Document.scan document).flatMap (·.call?.toList) := by
        rw [← visited, List.flatMap_map]
      _ = Document.calls document := (List.filterMap_eq_flatMap_toList _ _).symm
  · rw [← visited]
    intro placeholder member
    obtain ⟨visit, visiting, rfl⟩ := List.mem_map.mp member
    have fate := (fits visit visiting).1.trans (congrArg some (comes visit visiting))
    exact ⟨fate, fun fresh calm => (dispatch?_of_calm calm).trans fate⟩

/-- A value that looks like a placeholder is not looked at again, and a failure does not keep a
later placeholder from its value. -/
theorem render?_of_calm_failing :
    let world : World :=
      { stores := { parameters := [("p", "\x7b\x7baws:ssm:q\x7d\x7d")] }
        failures := [("s", .transport "reset")]
        delays := [("s", 5)] }
    let document :=
      "é\x7b\x7baws:secretsmanager:s\x7d\x7d\x7b\x7bx\x7d\x7d\x7b\x7baws:ssm:p\x7d\x7d"
    let output := "é\x7b\x7bERROR:reset\x7d\x7d\x7b\x7bx\x7d\x7d\x7b\x7baws:ssm:q\x7d\x7d"
    ∃ step, (world.circumstances none true).render? {} document {} = some step ∧
      step.calls = [.secret "s" none, .parameter "p"] ∧
      step.value = output := by
  intro world document output
  have calm : (world.circumstances none true).Calm {} := fun _ => ⟨rfl, fun _ => ⟨rfl, rfl⟩⟩
  obtain ⟨step, _, rendered, _, calls, _⟩ :=
    @render?_of_calm (world.circumstances none true) {} {} document calm fun _ _ _ => nofun
  have value : ((world.circumstances none true).render? {} document {}).map Step.value =
      some output := by decide +kernel
  rw [rendered] at value
  exact ⟨step, rendered, calls.trans (by decide +kernel), Option.some.inj value⟩

end Splice.Circumstances
