import Splice.Timeline

/-! # Calls and cancellation

A call that nobody disturbs comes to a result that does not depend on when it is made.
`call?_cases` says what else can become of a call that heeds cancellation, and `call?_of_calm` that
nothing else does as long as nobody cancels.
-/

namespace Splice

namespace Timeline

/-- Lets a call wait. One that needs no waiting lets nothing else happen. -/
def elapse (t : Timeline) (wait : Nat) : Timeline :=
  if wait = 0 then t else t.advance (t.now + wait)

@[simp] theorem elapse_now (t : Timeline) (wait : Nat) : (t.elapse wait).now = t.now + wait := by
  unfold elapse
  split
  · next instant => rw [instant, Nat.add_zero]
  · rfl

private theorem cancelled_advance_interruption? {t : Timeline} {instant : Nat}
    (interrupted : t.interruption? = some instant) : (t.advance instant).cancelled = true := by
  unfold interruption? at interrupted
  split at interrupted
  · next cancelled => simp [advance, cancelled]
  · split at interrupted
    · next held =>
      obtain ⟨alarm, first, rfl⟩ := Option.map_eq_some_iff.mp interrupted
      have rings : t.alarms.any (· ≤ max t.now alarm) = true :=
        List.any_eq_true.mpr
          ⟨alarm, List.min?_mem first, decide_eq_true (Nat.le_max_right _ _)⟩
      change (t.cancelled || (t.held && t.alarms.any (· ≤ max t.now alarm))) = true
      rw [held, rings, Bool.and_self, Bool.or_true]
    · contradiction

end Timeline

namespace Circumstances

variable {circumstances : Circumstances} {call : Call} {t : Timeline}

/-- The same circumstances for a run that does not heed cancellation. -/
def heedless (circumstances : Circumstances) : Circumstances :=
  { circumstances with heedful := false }

@[simp] theorem heedless_undisturbed? (circumstances : Circumstances) (call : Call) :
    circumstances.heedless.undisturbed? call = circumstances.undisturbed? call :=
  rfl

/-- A started call that is not interrupted takes its time and comes to its result. -/
theorem await?_of_not_interrupted
    (quiet : circumstances.heedful = true → t.interruption? = none) :
    circumstances.await? call t =
      (circumstances.undisturbed? call).map fun (wait, result) => (result, t.elapse wait) := by
  have uncut : (if circumstances.heedful then t.interruption? else none) = none := by
    split
    · next heedful => exact quiet heedful
    · rfl
  unfold await?
  rw [uncut]
  match circumstances.undisturbed? call with
  | none => rfl
  | some (0, result) => rfl
  | some (wait + 1, result) => rfl

private theorem await?_cases {result : CallResult} {after : Timeline}
    (awaited : circumstances.await? call t = some (result, after)) :
    (∃ wait, circumstances.undisturbed? call = some (wait, result) ∧ after = t.elapse wait) ∨
    (circumstances.heedful = true ∧ result = .error .cancelled ∧ after.cancelled = true) := by
  have interrupted {instant : Nat}
      (cut : (if circumstances.heedful then t.interruption? else none) = some instant) :
      circumstances.heedful = true ∧ (t.advance instant).cancelled = true := by
    split at cut
    · next heedful => exact ⟨heedful, Timeline.cancelled_advance_interruption? cut⟩
    · contradiction
  unfold await? at awaited
  generalize (if circumstances.heedful then t.interruption? else none) = interruption
    at awaited interrupted
  match circumstances.undisturbed? call, interruption, awaited with
  | none, some instant, rfl => exact .inr ⟨(interrupted rfl).1, rfl, (interrupted rfl).2⟩
  | some (0, result), _, rfl => exact .inl ⟨0, rfl, rfl⟩
  | some (wait + 1, result), none, rfl => exact .inl ⟨wait + 1, rfl, rfl⟩
  | some (wait + 1, result), some instant, awaited =>
    replace awaited : (if t.now + (wait + 1) < instant
        then some (result, t.advance (t.now + (wait + 1)))
        else some (.error .cancelled, t.advance instant)) = some (_, _) := awaited
    split at awaited
    · cases awaited
      exact .inl ⟨wait + 1, rfl, rfl⟩
    · cases awaited
      exact .inr ⟨(interrupted rfl).1, rfl, (interrupted rfl).2⟩

/-- No call is started while one is waited for. -/
theorem started_await? {result : CallResult} {after : Timeline}
    (awaited : circumstances.await? call t = some (result, after)) : after.started = t.started := by
  unfold await? at awaited
  dsimp only at awaited
  split at awaited
  · contradiction
  · cases awaited
    rfl
  · cases awaited
    rfl
  · cases awaited
    rfl
  · split at awaited <;> cases awaited <;> rfl

private theorem exists_undisturbed? {call : Call}
    (answered : circumstances.deadline = none → (circumstances.gateway call).latency ≠ .never) :
    ∃ wait result, circumstances.undisturbed? call = some (wait, result) := by
  unfold undisturbed?
  dsimp only
  split
  · exact ⟨_, _, rfl⟩
  · split <;> exact ⟨_, _, rfl⟩
  · exact ⟨_, _, rfl⟩
  · next never endless => exact absurd never (answered endless)

/-- A started call that does not hang ends. -/
theorem exists_await? (t : Timeline)
    (answered : circumstances.deadline = none → (circumstances.gateway call).latency ≠ .never) :
    ∃ ended, circumstances.await? call t = some ended := by
  obtain ⟨wait, result, ending⟩ := exists_undisturbed? answered
  unfold await?
  rw [ending]
  dsimp only
  split
  · contradiction
  · contradiction
  · exact ⟨_, rfl⟩
  · exact ⟨_, rfl⟩
  · split <;> exact ⟨_, rfl⟩

/-- A call that does not hang ends, whenever it is made. -/
theorem exists_call? (t : Timeline)
    (answered : circumstances.deadline = none → (circumstances.gateway call).latency ≠ .never) :
    ∃ step, circumstances.call? call t = some step := by
  unfold call?
  split
  · exact ⟨_, rfl⟩
  · obtain ⟨ended, awaited⟩ := exists_await? (t.begin circumstances.cancelOnCall) answered
    rw [awaited]
    exact ⟨_, rfl⟩

/-- A started call that needs no waiting comes to its result at once. -/
theorem await?_of_instant {result : CallResult}
    (instant : circumstances.undisturbed? call = some (0, result)) :
    circumstances.await? call t = some (result, t) := by
  unfold await?
  rw [instant]
  cases (if circumstances.heedful then t.interruption? else none) <;> rfl

/-- A call that does not heed cancellation comes to the same result whenever it is made. -/
theorem call?_heedless (circumstances : Circumstances) (call : Call) (t : Timeline) :
    circumstances.heedless.call? call t =
      (circumstances.undisturbed? call).map fun (wait, result) =>
        ⟨result, [call], (circumstances.gateway call).events,
          (t.begin circumstances.cancelOnCall).elapse wait⟩ := by
  unfold call?
  rw [await?_of_not_interrupted Bool.false_ne_true.elim, heedless_undisturbed?]
  cases circumstances.undisturbed? call <;> rfl

/-- A call is not made if the run was cancelled before. -/
theorem call?_of_cancelled (heedful : circumstances.heedful = true)
    (cancelled : t.cancelled = true) :
    circumstances.call? call t = some ⟨.error .cancelled, [], [], t⟩ := by
  simp only [call?, heedful, cancelled, Bool.and_self, if_true]

/-- A call that is made ends as if nobody could disturb it, or it is interrupted. -/
theorem call?_cases {step : Step CallResult}
    (called : circumstances.call? call t = some step) :
    (circumstances.heedful = true ∧ t.cancelled = true) ∨
    circumstances.heedless.call? call t = some step ∨
    (circumstances.heedful = true ∧ step.value = .error .cancelled ∧ step.calls = [call] ∧
      step.after.cancelled = true) := by
  rw [call?_heedless]
  unfold Circumstances.call? at called
  split at called
  · next before =>
    rw [Bool.and_eq_true] at before
    exact .inl before
  · right
    obtain ⟨⟨result, after⟩, awaited, rfl⟩ := Option.map_eq_some_iff.mp called
    rcases await?_cases awaited with ⟨wait, ending, rfl⟩ | ⟨heedful, rfl, cancelled⟩
    · exact .inl (by rw [ending]; rfl)
    · exact .inr ⟨heedful, rfl, rfl, cancelled⟩

private theorem undisturbed?_cases {wait : Nat} {result : CallResult}
    (ending : circumstances.undisturbed? call = some (wait, result)) :
    result = (circumstances.gateway call).result ∨
      ∃ milliseconds, result = .error (.timeout milliseconds) := by
  unfold undisturbed? at ending
  dsimp only at ending
  split at ending
  · cases ending
    exact .inl rfl
  · split at ending
    · cases ending
      exact .inl rfl
    · cases ending
      exact .inr ⟨_, rfl⟩
  · cases ending
    exact .inr ⟨_, rfl⟩
  · contradiction

/-- A call that is answered before its deadline passes comes to the answer. -/
theorem undisturbed?_of_inTime {delay : Nat}
    (answered : (circumstances.gateway call).latency = .after delay)
    (inTime : ∀ limit ∈ circumstances.deadline, delay ≤ limit) :
    circumstances.undisturbed? call = some (delay, (circumstances.gateway call).result) := by
  unfold undisturbed?
  dsimp only
  rw [answered]
  cases deadline : circumstances.deadline with
  | none => rfl
  | some limit => exact if_pos (inTime limit deadline)

/-- Making a call makes no other call. -/
theorem eq_of_mem_calls {made : Call} {step : Step CallResult}
    (called : circumstances.call? call t = some step) (member : made ∈ step.calls) :
    made = call := by
  unfold call? at called
  split at called
  · cases called
    contradiction
  · obtain ⟨_, _, rfl⟩ := Option.map_eq_some_iff.mp called
    exact List.mem_singleton.mp member

/-- What a call logs is what the gateway logs, if it is made at all. -/
theorem events_call? {step : Step CallResult}
    (called : circumstances.call? call t = some step) :
    step.events = step.calls.flatMap fun made => (circumstances.gateway made).events := by
  unfold call? at called
  split at called
  · cases called
    rfl
  · obtain ⟨_, _, rfl⟩ := Option.map_eq_some_iff.mp called
    exact (List.flatMap_singleton ..).symm

/-- A call comes to what the gateway answers, or it fails because of its deadline or because of
cancellation. -/
theorem call?_value_cases {step : Step CallResult}
    (called : circumstances.call? call t = some step) :
    (step.value = (circumstances.gateway call).result ∧ step.calls = [call]) ∨
    (∃ milliseconds, step.value = .error (.timeout milliseconds)) ∨
    step.value = .error .cancelled := by
  rcases call?_cases called with ⟨heedful, cancelled⟩ | undisturbed | ⟨_, value, _, _⟩
  · rw [call?_of_cancelled heedful cancelled] at called
    cases called
    exact .inr (.inr rfl)
  · rw [call?_heedless] at undisturbed
    obtain ⟨⟨wait, result⟩, ending, rfl⟩ := Option.map_eq_some_iff.mp undisturbed
    rcases undisturbed?_cases ending with answered | ⟨milliseconds, late⟩
    · exact .inl ⟨answered, rfl⟩
    · exact .inr (.inl ⟨milliseconds, late⟩)
  · exact .inr (.inr value)

/-! ## Runs that nobody cancels -/

/-- Nobody cancels: a run that heeds cancellation has not been cancelled, and either its token is
gone or no use of it is planned. -/
def Calm (circumstances : Circumstances) (t : Timeline) : Prop :=
  circumstances.heedful = true →
    t.cancelled = false ∧
      (t.held = true → t.alarms = [] ∧ circumstances.cancelOnCall = none)

namespace Calm

private theorem interruption? (calm : circumstances.Calm t)
    (heedful : circumstances.heedful = true) :
    t.interruption? = none := by
  obtain ⟨cancelled, unused⟩ := calm heedful
  unfold Timeline.interruption?
  rw [cancelled, if_neg Bool.false_ne_true]
  split
  · next held => rw [(unused held).1]; rfl
  · rfl

private theorem begin (calm : circumstances.Calm t) :
    circumstances.Calm (t.begin circumstances.cancelOnCall) := by
  intro heedful
  obtain ⟨cancelled, unused⟩ := calm heedful
  cases held : t.held with
  | false => simp [Timeline.begin, Timeline.cancel, cancelled, held]
  | true =>
    obtain ⟨silent, never⟩ := unused held
    simp [Timeline.begin, cancelled, silent, never]

private theorem elapse (calm : circumstances.Calm t) (wait : Nat) :
    circumstances.Calm (t.elapse wait) := by
  intro heedful
  obtain ⟨cancelled, unused⟩ := calm heedful
  unfold Timeline.elapse
  split
  · exact ⟨cancelled, unused⟩
  · cases held : t.held with
    | false => simp [Timeline.advance, cancelled, held]
    | true =>
      obtain ⟨silent, never⟩ := unused held
      simp [Timeline.advance, cancelled, silent, never]

end Calm

/-- A call that nobody cancels is as good as one that does not heed cancellation. -/
theorem call?_of_calm (calm : circumstances.Calm t) :
    circumstances.call? call t = circumstances.heedless.call? call t := by
  have made : ¬ (circumstances.heedful && t.cancelled) = true := by
    intro before
    rw [Bool.and_eq_true] at before
    simp [(calm before.1).1] at before
  rw [call?_heedless, call?, if_neg made, await?_of_not_interrupted calm.begin.interruption?]
  cases circumstances.undisturbed? call <;> rfl

/-- Nobody has cancelled after a call if nobody did before. -/
theorem Calm.after_call? {step : Step CallResult} (calm : circumstances.Calm t)
    (called : circumstances.call? call t = some step) : circumstances.Calm step.after := by
  rw [call?_of_calm calm, call?_heedless] at called
  obtain ⟨⟨wait, result⟩, _, rfl⟩ := Option.map_eq_some_iff.mp called
  exact calm.begin.elapse wait

end Circumstances

/-! ## Runs that somebody is going to cancel -/

/-- Somebody has cancelled a run, or is going to. -/
def Timeline.WillCancel (t : Timeline) : Prop :=
  t.cancelled = true ∨ t.held = true ∧ t.alarms ≠ []

namespace Timeline.WillCancel

variable {t : Timeline}

private theorem exists_interruption? (willCancel : t.WillCancel) :
    ∃ instant, t.interruption? = some instant := by
  unfold interruption?
  split
  · exact ⟨_, rfl⟩
  · next quiet =>
    obtain ⟨held, planned⟩ := willCancel.resolve_left quiet
    obtain ⟨first, rest, alarms⟩ := List.exists_cons_of_ne_nil planned
    rw [if_pos held, alarms]
    exact ⟨_, rfl⟩

private theorem begin (willCancel : t.WillCancel) (cancelOnCall : Option Nat) :
    (t.begin cancelOnCall).WillCancel := by
  unfold Timeline.begin
  dsimp only
  split
  · exact willCancel.imp (fun cancelled => by simp [cancel, cancelled]) id
  · exact willCancel

private theorem advance (willCancel : t.WillCancel) (instant : Nat) :
    (t.advance instant).WillCancel := by
  rcases willCancel with cancelled | ⟨held, planned⟩
  · exact .inl (by simp [Timeline.advance, cancelled])
  · obtain ⟨alarm, member⟩ := List.exists_mem_of_ne_nil _ planned
    by_cases due : alarm ≤ instant
    · have rings : t.alarms.any (· ≤ instant) = true :=
        List.any_eq_true.mpr ⟨alarm, member, decide_eq_true due⟩
      exact .inl (by simp only [Timeline.advance, held, rings, Bool.and_self, Bool.or_true])
    · have waiting : alarm ∈ (t.advance instant).alarms :=
        List.mem_filter.mpr ⟨member, decide_eq_true (Nat.lt_of_not_le due)⟩
      exact .inr ⟨held, List.ne_nil_of_mem waiting⟩

end Timeline.WillCancel

namespace Circumstances

variable {circumstances : Circumstances} {call : Call} {t : Timeline}

private theorem exists_await?_of_willCancel (heedful : circumstances.heedful = true)
    (willCancel : t.WillCancel) :
    ∃ result after, circumstances.await? call t = some (result, after) ∧ after.WillCancel := by
  obtain ⟨instant, interrupted⟩ := willCancel.exists_interruption?
  unfold await?
  rw [if_pos heedful, interrupted]
  match circumstances.undisturbed? call with
  | none => exact ⟨_, _, rfl, willCancel.advance _⟩
  | some (0, result) => exact ⟨_, _, rfl, willCancel⟩
  | some (wait + 1, result) =>
    by_cases inTime : t.now + (wait + 1) < instant
    · exact ⟨_, _, if_pos inTime, willCancel.advance _⟩
    · exact ⟨_, _, if_neg inTime, willCancel.advance _⟩

theorem exists_call?_of_willCancel (heedful : circumstances.heedful = true)
    (willCancel : t.WillCancel) :
    ∃ step, circumstances.call? call t = some step ∧ step.after.WillCancel := by
  unfold call?
  split
  · exact ⟨_, rfl, willCancel⟩
  · obtain ⟨result, after, awaited, still⟩ :=
      exists_await?_of_willCancel heedful (willCancel.begin circumstances.cancelOnCall)
    rw [awaited]
    exact ⟨_, rfl, still⟩

end Circumstances

end Splice
