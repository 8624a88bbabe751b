import Splice.Proofs.Render.Calm

/-! # Renderings over other gateways

Two gateways that give the same results make the same rendering: always if their answers take the
same time, and whatever time they take if all answers come before the deadline and nobody cancels
while the run is under way. Only the log may be different.
-/

namespace Splice

/-- Two steps that come to the same and make the same calls. -/
structure Step.Alike {α : Type} (first second : Step α) : Prop where
  value : second.value = first.value
  calls : second.calls = first.calls

/-- Two gateways that give the same results. -/
def Gateway.Agree (first second : Gateway) : Prop :=
  ∀ call, (second call).result = (first call).result

namespace Circumstances

variable {circumstances : Circumstances} {gateway other : Gateway} {call : Call}
  {context : Context} {document : String} {t : Timeline}

/-- The same circumstances with another gateway. -/
def asking (circumstances : Circumstances) (gateway : Gateway) : Circumstances :=
  { circumstances with gateway := gateway }

/-! ## From calls to renderings -/

section

variable {first second : Circumstances} {Linked : Timeline → Timeline → Prop} {start : Timeline}

private theorem carryOut?_follows
    (follows : ∀ call t start step, Linked t start → first.call? call t = some step →
      ∃ followed, second.call? call start = some followed ∧ step.Alike followed ∧
        Linked step.after followed.after)
    {asked : Option Call} {step : Step Outcome} (linked : Linked t start)
    (done : first.carryOut? t asked = some step) :
    ∃ followed, second.carryOut? start asked = some followed ∧ step.Alike followed ∧
      Linked step.after followed.after := by
  cases asked with
  | none =>
    cases done
    exact ⟨_, rfl, ⟨rfl, rfl⟩, linked⟩
  | some call =>
    obtain ⟨called, made, rfl⟩ := Option.map_eq_some_iff.mp done
    obtain ⟨followed, otherMade, alike, next⟩ := follows call t start called linked made
    refine ⟨_, Option.map_eq_some_iff.mpr ⟨followed, otherMade, rfl⟩, ⟨?_, alike.calls⟩, next⟩
    exact congrArg Outcome.ofResult alike.value

private theorem alike_report {visits others : List Visit} (after otherAfter : Timeline)
    (alike : List.Forall₂ (fun visit followed => followed.placeholder = visit.placeholder ∧
      visit.step.Alike followed.step) visits others) :
    others.map Visit.placeholder = visits.map Visit.placeholder ∧
      (Document.report document visits after).Alike
        (Document.report document others otherAfter) := by
  have same : others.map Visit.placeholder = visits.map Visit.placeholder ∧
      others.map (·.step.value) = visits.map (·.step.value) ∧
      others.flatMap (·.step.calls) = visits.flatMap (·.step.calls) := by
    induction alike with
    | nil => exact ⟨rfl, rfl, rfl⟩
    | cons head _ ih =>
      obtain ⟨placeholders, values, calls⟩ := ih
      simp only [List.map_cons, List.flatMap_cons, placeholders, values, calls, head.1,
        head.2.value, head.2.calls, and_self]
  obtain ⟨placeholders, values, calls⟩ := same
  refine ⟨placeholders, ?_, calls⟩
  simp only [Document.report, values]

private theorem render?_follows
    (follows : ∀ call t start step, Linked t start → first.call? call t = some step →
      ∃ followed, second.call? call start = some followed ∧ step.Alike followed ∧
        Linked step.after followed.after)
    {step : Step String} (linked : Linked t start)
    (rendered : first.render? context document t = some step) :
    ∃ followed, second.render? context document start = some followed ∧ step.Alike followed ∧
      Linked step.after followed.after := by
  obtain ⟨visits, after, course, visited, rfl⟩ := render?_eq_some_iff.mp rendered
  have members := Document.mem_scan_of_visited visited
  have dispatches : ∀ visit ∈ visits, ∀ before, Linked visit.before before →
      first.dispatch? context visit.placeholder.inner visit.before = some visit.step →
      ∃ followed, second.dispatch? context visit.placeholder.inner before = some followed ∧
        visit.step.Alike followed ∧ Linked visit.step.after followed.after := by
    intro visit visiting before linked dispatched
    rw [dispatch?_of_mem_scan (members visit visiting)] at dispatched ⊢
    exact carryOut?_follows follows linked dispatched
  obtain ⟨others, otherAfter, otherCourse, alike, last⟩ := course.simulate dispatches linked
  obtain ⟨placeholders, reports⟩ := @alike_report document visits others after otherAfter alike
  exact ⟨_, render?_eq_some_iff.mpr
    ⟨others, otherAfter, otherCourse, placeholders.trans visited, rfl⟩, reports, last⟩

end

/-! ## Answers that take the same time -/

private theorem call?_asking (agree : gateway.Agree other)
    (timed : ∀ call, (other call).latency = (gateway call).latency) {step : Step CallResult}
    (called : (circumstances.asking gateway).call? call t = some step) :
    ∃ followed, (circumstances.asking other).call? call t = some followed ∧
      step.Alike followed ∧ step.after = followed.after := by
  have undisturbed : (circumstances.asking other).undisturbed? call =
      (circumstances.asking gateway).undisturbed? call := by
    simp only [undisturbed?, asking, agree call, timed call]
  have awaited (t : Timeline) : (circumstances.asking other).await? call t =
      (circumstances.asking gateway).await? call t := by
    unfold await?
    rw [undisturbed]
    rfl
  unfold call? at called
  split at called
  · next before =>
    cases called
    exact ⟨_, if_pos before, ⟨rfl, rfl⟩, rfl⟩
  · next unstopped =>
    obtain ⟨⟨result, after⟩, ended, rfl⟩ := Option.map_eq_some_iff.mp called
    have otherEnded := (awaited (t.begin circumstances.cancelOnCall)).trans ended
    exact ⟨⟨result, [call], (other call).events, after⟩,
      (if_neg unstopped).trans (Option.map_eq_some_iff.mpr ⟨_, otherEnded, rfl⟩), ⟨rfl, rfl⟩, rfl⟩

/-- A rendering over another gateway with the same results and the same timing differs in its log
only. -/
theorem render?_asking (agree : gateway.Agree other)
    (timed : ∀ call, (other call).latency = (gateway call).latency) {step : Step String}
    (rendered : (circumstances.asking gateway).render? context document t = some step) :
    ∃ followed, (circumstances.asking other).render? context document t = some followed ∧
      step.Alike followed ∧ step.after = followed.after := by
  refine render?_follows ?_ rfl rendered
  rintro call t _ step rfl called
  exact call?_asking agree timed called

/-! ## Answers that come in time -/

/-- Every answer comes, and before the deadline of its call. -/
def Prompt (circumstances : Circumstances) : Prop :=
  ∀ call, ∃ delay, (circumstances.gateway call).latency = .after delay ∧
    ∀ limit, circumstances.deadline = some limit → delay ≤ limit

/-- Nobody cancels while the run is under way: it was cancelled before, or nobody does. -/
def Settled (circumstances : Circumstances) (t : Timeline) : Prop :=
  circumstances.Calm t ∨ (circumstances.heedful = true ∧ t.cancelled = true)

private theorem undisturbed?_of_prompt (prompt : circumstances.Prompt) (call : Call) :
    ∃ delay, circumstances.undisturbed? call =
      some (delay, (circumstances.gateway call).result) := by
  obtain ⟨delay, latency, inTime⟩ := prompt call
  exact ⟨delay, undisturbed?_of_inTime latency inTime⟩

private theorem call?_of_prompt (prompt : circumstances.Prompt) (calm : circumstances.Calm t)
    (call : Call) :
    ∃ step, circumstances.call? call t = some step ∧
      step.value = (circumstances.gateway call).result ∧ step.calls = [call] := by
  obtain ⟨delay, ending⟩ := undisturbed?_of_prompt prompt call
  rw [call?_of_calm calm, call?_heedless, ending]
  exact ⟨_, rfl, rfl, rfl⟩

/-- Nobody cancels two runs while they are under way, and both were cancelled before or neither. -/
def SettledAlike (circumstances : Circumstances) (t start : Timeline) : Prop :=
  (circumstances.Calm t ∧ circumstances.Calm start) ∨
    (circumstances.heedful = true ∧ t.cancelled = true ∧ start.cancelled = true)

private theorem Settled.self (settled : circumstances.Settled t) :
    circumstances.SettledAlike t t := by
  rcases settled with calm | ⟨heedful, cancelled⟩
  · exact .inl ⟨calm, calm⟩
  · exact .inr ⟨heedful, cancelled, cancelled⟩

private theorem call?_asking_of_prompt (agree : gateway.Agree other)
    (prompt : (circumstances.asking gateway).Prompt)
    (otherPrompt : (circumstances.asking other).Prompt) {start : Timeline}
    (settled : circumstances.SettledAlike t start) {step : Step CallResult}
    (called : (circumstances.asking gateway).call? call t = some step) :
    ∃ followed, (circumstances.asking other).call? call start = some followed ∧
      step.Alike followed ∧ circumstances.SettledAlike step.after followed.after := by
  rcases settled with ⟨calm, otherCalm⟩ | ⟨heedful, cancelled, otherCancelled⟩
  · -- Whether nobody cancels does not depend on the gateway.
    have calm : (circumstances.asking gateway).Calm t := calm
    have otherCalm : (circumstances.asking other).Calm start := otherCalm
    obtain ⟨answered, made, value, calls⟩ := call?_of_prompt prompt calm call
    obtain ⟨followed, otherMade, otherValue, otherCalls⟩ :=
      call?_of_prompt otherPrompt otherCalm call
    obtain rfl := Option.some.inj (called.symm.trans made)
    have same : followed.value = step.value :=
      otherValue.trans ((agree call).trans value.symm)
    exact ⟨followed, otherMade, ⟨same, otherCalls.trans calls.symm⟩,
      .inl ⟨calm.after_call? made, otherCalm.after_call? otherMade⟩⟩
  · have skipped : (circumstances.asking gateway).call? call t = some _ :=
      call?_of_cancelled heedful cancelled
    have otherSkipped : (circumstances.asking other).call? call start = some _ :=
      call?_of_cancelled heedful otherCancelled
    cases called.symm.trans skipped
    exact ⟨_, otherSkipped, ⟨rfl, rfl⟩, .inr ⟨heedful, cancelled, otherCancelled⟩⟩

/-- The time that answers take does not matter to a rendering that nobody cancels while it is under
way, as long as they come before the deadline. -/
theorem render?_asking_of_prompt (agree : gateway.Agree other)
    (prompt : (circumstances.asking gateway).Prompt)
    (otherPrompt : (circumstances.asking other).Prompt)
    (settled : circumstances.Settled t) {step : Step String}
    (rendered : (circumstances.asking gateway).render? context document t = some step) :
    ∃ followed, (circumstances.asking other).render? context document t = some followed ∧
      step.Alike followed := by
  have follows : ∀ call t start step, circumstances.SettledAlike t start →
      (circumstances.asking gateway).call? call t = some step →
      ∃ followed, (circumstances.asking other).call? call start = some followed ∧
        step.Alike followed ∧ circumstances.SettledAlike step.after followed.after := by
    intro call t start step settled called
    exact call?_asking_of_prompt agree prompt otherPrompt settled called
  obtain ⟨followed, otherRendered, alike, _⟩ := render?_follows follows settled.self rendered
  exact ⟨followed, otherRendered, alike⟩

end Circumstances

end Splice
