import Splice.Proofs.Dispatch
import Splice.Proofs.PathTemplate.Execution
import Splice.Store

/-! # Dispatching any inner text

An inner text is judged in three stages: whether it belongs to a provider, whether its path has a
value, and whether the run was cancelled. Only a text that passes all of them starts a call, and it
starts exactly one. The main statement, `dispatch?_exact`, says what each stage comes to, and that
the context decides about nothing but the name that is asked for.
-/

namespace Splice

/-- The field that a call asks for. -/
def Call.field? : Call → Option String
  | parameter _ => none
  | secret _ field => field

private theorem Reference.field?_call (reference : Reference) (target : String) :
    (reference.call target).field? = reference.field? := by
  cases reference <;> rfl

/-- The stores have nothing that a call asks for, and the failure by which they say so. -/
inductive Stores.Misses (stores : Stores) : Call → ResolveError → Prop
  | parameter {name : String} : stores.parameters.lookup name = none →
      Misses stores (.parameter name) (.parameterNotFound name)
  | secret {id : String} (field : Option String) : stores.secrets.lookup id = none →
      Misses stores (.secret id field) (.secretNotFound id)
  | key {id key : String} {payload : Option String} : stores.secrets.lookup id = some payload →
      Secret.select id payload (some key) = .error (.keyNotFound key id) →
      Misses stores (.secret id (some key)) (.keyNotFound key id)

namespace Circumstances

/-- Starts the call of a placeholder and waits for its end. -/
def start? (circumstances : Circumstances) (t : Timeline) (call : Call) : Option (Step Outcome) :=
  (circumstances.await? call (t.begin circumstances.cancelOnCall)).map fun (result, after) =>
    { value := .ofResult result
      calls := [call]
      events := .dispatching call.provider :: (circumstances.gateway call).events
      after := after }

end Circumstances

/-! ## Stores that lack a value -/

private theorem Secret.eq_keyNotFound_of_select {id : String} {payload field : Option String}
    {error : ResolveError} (fails : select id payload field = .error error)
    (missing : error.kind = .notFound) :
    ∃ key, field = some key ∧ error = .keyNotFound key id := by
  rcases error_of_select fails with ⟨_, rfl⟩ | ⟨_, key, _, rfl, ⟨reason, rfl⟩ | rfl⟩
  · contradiction
  · contradiction
  · exact ⟨key, rfl, rfl⟩

private theorem Stores.answer_notFound_iff {stores : Stores} {call : Call} {error : ResolveError} :
    stores.answer call = .error error ∧ error.kind = .notFound ↔ stores.Misses call error := by
  constructor
  · rintro ⟨fails, missing⟩
    cases call with
    | parameter name =>
      simp only [answer, Stores.parameter] at fails
      split at fails
      · contradiction
      · next unknown =>
        cases fails
        exact .parameter unknown
    | secret id field =>
      simp only [answer, Stores.secret] at fails
      split at fails
      · next payload known =>
        obtain ⟨key, rfl, rfl⟩ := Secret.eq_keyNotFound_of_select fails missing
        exact .key known fails
      · next unknown =>
        cases fails
        exact .secret field unknown
  · intro misses
    cases misses with
    | parameter unknown => exact ⟨by simp only [answer, Stores.parameter, unknown], rfl⟩
    | secret field unknown => exact ⟨by simp only [answer, Stores.secret, unknown], rfl⟩
    | key known missing => exact ⟨by simp only [answer, Stores.secret, known, missing], rfl⟩

namespace Circumstances

variable {circumstances : Circumstances} {context : Context} {inner target : String}
  {reference : Reference} {call : Call} {t : Timeline}

/-! ## The call that is started -/

private theorem calls_start? {step : Step Outcome}
    (started : circumstances.start? t call = some step) :
    step.calls = [call] ∧ step.after.started = t.started + 1 := by
  obtain ⟨⟨result, after⟩, awaited, rfl⟩ := Option.map_eq_some_iff.mp started
  refine ⟨rfl, ?_⟩
  rw [started_await? awaited, Timeline.begin_started]

private theorem carryOut?_eq_start?
    (heard : ¬ (circumstances.heedful = true ∧ t.cancelled = true)) :
    circumstances.carryOut? t (some call) = circumstances.start? t call := by
  have unheard : ¬ (circumstances.heedful && t.cancelled) = true := by
    rwa [Bool.and_eq_true]
  rw [carryOut?, call?, if_neg unheard, Option.map_map]
  rfl

private theorem never_of_start?_eq_none (endless : circumstances.start? t call = none) :
    (circumstances.gateway call).latency = .never := by
  by_contra answered
  obtain ⟨ended, awaited⟩ := exists_await? (t.begin circumstances.cancelOnCall) fun _ => answered
  rw [start?, awaited] at endless
  contradiction

private theorem start?_of_stores {stores : Stores}
    (inMemory : circumstances.gateway = stores.gateway) :
    circumstances.start? t call =
      some { value := .ofResult (stores.answer call)
             calls := [call]
             events := [.dispatching call.provider]
             after := t.begin circumstances.cancelOnCall } := by
  have atOnce : (circumstances.gateway call).latency = .after 0 := by
    rw [inMemory]
    rfl
  have instant := undisturbed?_of_inTime atOnce fun limit _ => Nat.zero_le limit
  rw [start?, await?_of_instant instant, inMemory]
  rfl

/-! ## Stages -/

private theorem dispatch?_of_untagged
    (untagged : ∀ provider : Provider, ¬ provider.tag.toList <+: inner.toList) :
    circumstances.dispatch? context inner t = some ⟨.unsupported, [], [], t⟩ := by
  rw [dispatch?, Reference.parse?_eq_none_iff.mpr untagged]

private theorem dispatch?_of_valueless {error : ExpressionError}
    (written : reference.IsWritten inner)
    (valueless : PathTemplate.evaluate reference.path context = .error error) :
    circumstances.dispatch? context inner t =
      some ⟨.failed (.expression error), [], [.dispatching reference.provider], t⟩ := by
  simp only [dispatch?, Reference.parse?_eq_some_iff.mpr written, resolve?, valueless,
    Option.map_some, Outcome.ofResult]

private theorem dispatch?_of_cancelled (written : reference.IsWritten inner)
    (evaluated : PathTemplate.evaluate reference.path context = .ok target)
    (heedful : circumstances.heedful = true) (cancelled : t.cancelled = true) :
    circumstances.dispatch? context inner t =
      some ⟨.failed .cancelled, [], [.dispatching reference.provider], t⟩ := by
  rw [dispatch?_of_written written evaluated, carryOut?, call?_of_cancelled heedful cancelled,
    Reference.provider_call]
  rfl

private theorem dispatch?_eq_start? (written : reference.IsWritten inner)
    (evaluated : PathTemplate.evaluate reference.path context = .ok target)
    (heard : ¬ (circumstances.heedful = true ∧ t.cancelled = true)) :
    circumstances.dispatch? context inner t = circumstances.start? t (reference.call target) := by
  rw [dispatch?_of_written written evaluated, carryOut?_eq_start? heard]

/-- What a text comes to does not depend on the context, or it starts calls that differ in the name
they ask for and in nothing else. -/
private theorem dispatch?_context (circumstances : Circumstances) (inner : String) (t : Timeline)
    (context other : Context) :
    (∃ step : Step Outcome, step.calls = [] ∧
      circumstances.dispatch? context inner t = some step ∧
      circumstances.dispatch? other inner t = some step) ∨
    ∃ call otherCall : Call,
      call.provider = otherCall.provider ∧ call.field? = otherCall.field? ∧
      circumstances.dispatch? context inner t = circumstances.start? t call ∧
      circumstances.dispatch? other inner t = circumstances.start? t otherCall := by
  by_cases tagged : ∃ provider : Provider, provider.tag.toList <+: inner.toList
  · obtain ⟨provider, tagged⟩ := tagged
    obtain ⟨reference, written⟩ := Reference.exists_isWritten tagged
    -- The path has a value in both contexts or in none, so both stop at the same stage.
    have same := PathTemplate.evaluate_eq_error_congr reference.path context other
    cases evaluated : PathTemplate.evaluate reference.path context with
    | error error =>
      exact .inl ⟨_, rfl, dispatch?_of_valueless written evaluated,
        dispatch?_of_valueless written ((same error).mp evaluated)⟩
    | ok target =>
      cases otherEvaluated : PathTemplate.evaluate reference.path other with
      | error error =>
        rw [(same error).mpr otherEvaluated] at evaluated
        contradiction
      | ok otherTarget =>
        by_cases stopped : circumstances.heedful = true ∧ t.cancelled = true
        · exact .inl ⟨_, rfl, dispatch?_of_cancelled written evaluated stopped.1 stopped.2,
            dispatch?_of_cancelled written otherEvaluated stopped.1 stopped.2⟩
        · refine .inr ⟨reference.call target, reference.call otherTarget, ?_, ?_,
            dispatch?_eq_start? written evaluated stopped,
            dispatch?_eq_start? written otherEvaluated stopped⟩
          · rw [Reference.provider_call, Reference.provider_call]
          · rw [Reference.field?_call, Reference.field?_call]
  · have untagged := not_exists.mp tagged
    exact .inl ⟨_, rfl, dispatch?_of_untagged untagged, dispatch?_of_untagged untagged⟩

/-- An inner text without the tag of a provider is left as it is, and nothing else happens. Any
other one is a way to write one reference. If the path of the reference has no value, that is
reported and no call is made, cancelled or not. Otherwise no call is made in a run that was
cancelled before, and exactly one in every other run: it goes to the provider of the tag and asks
for the value of the path and for the field as it is written. Another context changes the name of
this call and nothing else about it. Stores in memory report a value that they lack under this
name. -/
theorem dispatch?_exact (circumstances : Circumstances) (context : Context) (inner : String)
    (t : Timeline) :
    ((∀ provider : Provider, ¬ provider.tag.toList <+: inner.toList) →
      circumstances.dispatch? context inner t = some ⟨.unsupported, [], [], t⟩) ∧
    ((∃ provider : Provider, provider.tag.toList <+: inner.toList) →
      ∃! reference : Reference, reference.IsWritten inner) ∧
    (∀ reference : Reference, reference.IsWritten inner →
      reference.provider.tag.toList <+: inner.toList ∧ reference.field? ≠ some "" ∧
      (∀ error, PathTemplate.evaluate reference.path context = .error error →
        circumstances.dispatch? context inner t =
          some ⟨.failed (.expression error), [], [.dispatching reference.provider], t⟩) ∧
      ∀ target, PathTemplate.evaluate reference.path context = .ok target →
        let call := reference.call target
        (circumstances.heedful = true ∧ t.cancelled = true →
          circumstances.dispatch? context inner t =
            some ⟨.failed .cancelled, [], [.dispatching reference.provider], t⟩) ∧
        (¬ (circumstances.heedful = true ∧ t.cancelled = true) →
          call.provider = reference.provider ∧ call.key = target ∧
          call.field? = reference.field? ∧
          circumstances.dispatch? context inner t = circumstances.start? t call ∧
          ∀ stores : Stores, circumstances.gateway = stores.gateway →
            ∃ step, circumstances.dispatch? context inner t = some step ∧
              step.value = .ofResult (stores.answer call) ∧
              ∀ error, step.value = .failed error ∧ error.kind = .notFound ↔
                stores.Misses call error)) ∧
    (∀ call step, circumstances.start? t call = some step →
      step.calls = [call] ∧ step.after.started = t.started + 1) ∧
    (∀ call, circumstances.start? t call = none →
      (circumstances.gateway call).latency = .never) ∧
    ∀ other : Context,
      (∃ step : Step Outcome, step.calls = [] ∧
        circumstances.dispatch? context inner t = some step ∧
        circumstances.dispatch? other inner t = some step) ∨
      ∃ call otherCall : Call,
        call.provider = otherCall.provider ∧ call.field? = otherCall.field? ∧
        circumstances.dispatch? context inner t = circumstances.start? t call ∧
        circumstances.dispatch? other inner t = circumstances.start? t otherCall := by
  refine ⟨dispatch?_of_untagged, ?_, ?_, fun _ _ => calls_start?,
    fun _ => never_of_start?_eq_none, dispatch?_context circumstances inner t context⟩
  · rintro ⟨provider, tagged⟩
    obtain ⟨reference, written⟩ := Reference.exists_isWritten tagged
    exact ⟨reference, written, fun other otherWritten => otherWritten.unique written⟩
  · intro reference written
    refine ⟨Reference.tag_prefix_of_parse? (Reference.parse?_eq_some_iff.mpr written),
      written.field?_ne, fun error => dispatch?_of_valueless written, ?_⟩
    intro target evaluated call
    constructor
    · rintro ⟨heedful, cancelled⟩
      exact dispatch?_of_cancelled written evaluated heedful cancelled
    · intro heard
      have started := dispatch?_eq_start? written evaluated heard
      refine ⟨reference.provider_call target, reference.key_call target,
        reference.field?_call target, started, ?_⟩
      intro stores inMemory
      rw [started, start?_of_stores inMemory]
      refine ⟨_, rfl, rfl, ?_⟩
      intro error
      rw [← Stores.answer_notFound_iff]
      constructor
      · rintro ⟨failed, missing⟩
        exact ⟨Outcome.eq_error_of_ofResult failed, missing⟩
      · rintro ⟨fails, missing⟩
        refine ⟨?_, missing⟩
        change Outcome.ofResult (stores.answer call) = _
        rw [fails]
        rfl

/-- A hash sign in the environment name belongs to the name of the secret, and a second one in the
inner text to the field. -/
theorem dispatch?_exact_hash :
    let circumstances : Circumstances :=
      { gateway := ({} : Stores).gateway, deadline := some 0, heedful := true }
    let inner := "aws:secretsmanager:" ++ ("/\x7b\x7benv\x7d\x7d" ++ "#" ++ "a#b")
    (Reference.secret "/\x7b\x7benv\x7d\x7d" (some "a#b")).IsWritten inner ∧
    ∃ step, circumstances.dispatch? ⟨"x#\x7b\x7b"⟩ inner {} = some step ∧
      step.calls = [.secret "/x#\x7b\x7b" (some "a#b")] ∧
      step.value = .failed (.secretNotFound "/x#\x7b\x7b") := by
  intro circumstances inner
  have written : (Reference.secret "/\x7b\x7benv\x7d\x7d" (some "a#b")).IsWritten inner :=
    .field (by decide) (by decide)
  have evaluated : PathTemplate.evaluate "/\x7b\x7benv\x7d\x7d" ⟨"x#\x7b\x7b"⟩ =
      .ok "/x#\x7b\x7b" := PathTemplate.eq_ok_of_toOption (by decide +kernel)
  obtain ⟨_, _, judged, started, _⟩ := dispatch?_exact circumstances ⟨"x#\x7b\x7b"⟩ inner {}
  obtain ⟨_, _, _, evaluates⟩ := judged _ written
  obtain ⟨_, _, _, starts, answers⟩ := (evaluates _ evaluated).2 (by decide)
  obtain ⟨step, dispatched, _, missing⟩ := answers {} rfl
  refine ⟨written, step, dispatched, (started _ step (starts.symm.trans dispatched)).1, ?_⟩
  exact ((missing _).mpr (.secret _ rfl)).1

end Circumstances

end Splice
