import Mathlib.Logic.Function.Iterate
import Splice.PathTemplate.Parser

/-! # What a template stands for

An action stands for the environment name, lowered as often as it says; every other order of
commands fails. The main statement, `execute_exact`, says which templates have a text in a context,
which text that is, and which failure is reported for the others. Nothing but the text depends on
the context.
-/

namespace Splice

/-- A command that gives the environment name. -/
inductive Command.IsSource : Command → Prop
  | env : IsSource (.call .env)
  | field : IsSource (.field "Env")

/-- A command that cannot be carried out, at the head of a pipeline or behind a command with a
value, and what is reported of it. -/
inductive Command.Fails : (leading : Bool) → Command → String → Prop
  | nothingToLower : Fails true (.call .toLower) "wrong number of args for toLower: want 1 got 0"
  | unknownField {name : String} : name ≠ "Env" →
      Fails true (.field name) ("can't evaluate field " ++ name)
  | valueForEnv : Fails false (.call .env) "wrong number of args for env: want 0 got 1"
  | valueForField (name : String) :
      Fails false (.field name) ("can't give argument to non-function ." ++ name)

namespace Pipeline

/-- A pipeline that gives the environment name and then only lowers it. -/
def IsSound (pipeline : Pipeline) : Prop :=
  pipeline.first.IsSource ∧ ∀ command ∈ pipeline.rest, command = .call .toLower

/-- The environment name, lowered once for every command that says so. -/
def value (context : Context) (pipeline : Pipeline) : String :=
  Text.lower^[pipeline.commands.count (.call .toLower)] context.env

/-- What is reported of the first command of a pipeline that cannot be carried out at its place. -/
inductive Reports : Pipeline → String → Prop
  | leading {command : Command} {rest : List Command} {message : String} :
      command.Fails true message → Reports ⟨command, rest⟩ message
  | behind {source command : Command} {count : Nat} {rest : List Command} {message : String} :
      source.IsSource → command.Fails false message →
      Reports ⟨source, List.replicate count (.call .toLower) ++ command :: rest⟩ message

end Pipeline

/-- The text of a segment, if its action is sound. -/
def Segment.value (context : Context) : Segment → String
  | .text literal => literal
  | .action pipeline => pipeline.value context

namespace PathTemplate

/-- A template all of whose actions are sound. -/
def IsSound (template : PathTemplate) : Prop :=
  ∀ pipeline, .action pipeline ∈ template.segments → pipeline.IsSound

/-- The texts of a template and the values of its actions, in order. -/
def value (context : Context) (template : PathTemplate) : String :=
  String.join (template.segments.map (Segment.value context))

/-- What is reported of the first action of a template that is not sound. -/
def Reports (template : PathTemplate) (message : String) : Prop :=
  ∃ front pipeline back, template.segments = front ++ .action pipeline :: back ∧
    (∀ other, .action other ∈ front → other.IsSound) ∧ pipeline.Reports message

end PathTemplate

/-! ## Commands -/

namespace Command

private theorem IsSource.run_eq {command : Command} (source : command.IsSource)
    (context : Context) :
    command.run context none = .ok context.env := by
  cases source <;> rfl

private theorem Fails.run_none {command : Command} {message : String}
    (fails : command.Fails true message) :
    ∃ fault : ExecutionFault, fault.message = message ∧
      ∀ context, command.run context none = .error fault := by
  cases fails with
  | nothingToLower => exact ⟨.wrongArgumentCount .toLower 0, by decide, fun _ => rfl⟩
  | @unknownField name unknown =>
    refine ⟨.unknownField name, rfl, ?_⟩
    intro context
    simp only [run, Context.field?, if_neg unknown]

private theorem Fails.run_some {command : Command} {message : String}
    (fails : command.Fails false message) :
    ∃ fault : ExecutionFault, fault.message = message ∧
      ∀ context value, command.run context (some value) = .error fault := by
  cases fails with
  | valueForEnv => exact ⟨.wrongArgumentCount .env 1, by decide, fun _ _ => rfl⟩
  | valueForField name => exact ⟨.argumentToField name, rfl, fun _ _ => rfl⟩

private theorem isSource_or_fails (command : Command) :
    command.IsSource ∨ ∃ message, command.Fails true message := by
  cases command with
  | call function =>
    cases function with
    | env => exact .inl .env
    | toLower => exact .inr ⟨_, .nothingToLower⟩
  | field name =>
    by_cases known : name = "Env"
    · subst known
      exact .inl .field
    · exact .inr ⟨_, .unknownField known⟩

private theorem eq_toLower_or_fails (command : Command) :
    command = .call .toLower ∨ ∃ message, command.Fails false message := by
  cases command with
  | call function =>
    cases function with
    | env => exact .inr ⟨_, .valueForEnv⟩
    | toLower => exact .inl rfl
  | field name => exact .inr ⟨_, .valueForField name⟩

theorem IsSource.ne_toLower {command : Command} (source : command.IsSource) :
    command ≠ .call .toLower := by
  cases source <;> decide

end Command

/-! ## Pipelines -/

private theorem lowering_or_fails (commands : List Command) :
    (∀ command ∈ commands, command = .call .toLower) ∨
    ∃ count command rest message,
      commands = List.replicate count (.call .toLower) ++ command :: rest ∧
        command.Fails false message := by
  induction commands with
  | nil => exact .inl (by simp)
  | cons command rest ih =>
    rcases command.eq_toLower_or_fails with rfl | ⟨message, fails⟩
    · rcases ih with lowering | ⟨count, failing, others, message, rfl, fails⟩
      · exact .inl (List.forall_mem_cons.mpr ⟨rfl, lowering⟩)
      · exact .inr ⟨count + 1, failing, others, message, rfl, fails⟩
    · exact .inr ⟨0, command, rest, message, rfl, fails⟩

private theorem runAfter_replicate_append (context : Context) (value : String) (count : Nat)
    (rest : List Command) :
    runAfter context value (List.replicate count (.call .toLower) ++ rest) =
      runAfter context (Text.lower^[count] value) rest := by
  induction count generalizing value with
  | zero => rfl
  | succ count ih => exact ih (Text.lower value)

namespace Pipeline

variable {pipeline : Pipeline}

private theorem IsSound.rest_eq (sound : pipeline.IsSound) :
    pipeline.rest =
      List.replicate (pipeline.commands.count (.call .toLower)) (.call .toLower) := by
  have lowering : pipeline.rest = List.replicate pipeline.rest.length (.call .toLower) :=
    List.eq_replicate_of_mem sound.2
  have counted : pipeline.commands.count (.call .toLower) = pipeline.rest.length := by
    rw [commands, List.count_cons_of_ne sound.1.ne_toLower, lowering, List.count_replicate_self,
      List.length_replicate]
  rw [counted]
  exact lowering

theorem IsSound.run_eq (sound : pipeline.IsSound) (context : Context) :
    pipeline.run context = .ok (pipeline.value context) := by
  have lowered := runAfter_replicate_append context context.env
    (pipeline.commands.count (.call .toLower)) []
  rw [List.append_nil, ← sound.rest_eq] at lowered
  rw [run, sound.1.run_eq]
  exact lowered

private theorem Reports.run_eq {message : String} (reports : pipeline.Reports message) :
    ∃ fault : ExecutionFault, fault.message = message ∧
      ∀ context, pipeline.run context = .error fault := by
  cases reports with
  | leading fails =>
    obtain ⟨fault, same, failed⟩ := fails.run_none
    refine ⟨fault, same, ?_⟩
    intro context
    rw [run, failed]
    rfl
  | @behind source command count rest message isSource fails =>
    obtain ⟨fault, same, failed⟩ := fails.run_some
    refine ⟨fault, same, ?_⟩
    intro context
    rw [run, isSource.run_eq]
    change runAfter context context.env _ = _
    rw [runAfter_replicate_append, runAfter, failed]
    rfl

private theorem isSound_or_reports (pipeline : Pipeline) :
    pipeline.IsSound ∨ ∃ message, pipeline.Reports message := by
  obtain ⟨first, rest⟩ := pipeline
  rcases first.isSource_or_fails with source | ⟨message, fails⟩
  · rcases lowering_or_fails rest with lowering | ⟨count, command, back, message, rfl, fails⟩
    · exact .inl ⟨source, lowering⟩
    · exact .inr ⟨message, .behind source fails⟩
  · exact .inr ⟨message, .leading fails⟩

private theorem foldlM_commands (context : Context) (pipeline : Pipeline) :
    pipeline.commands.foldlM (fun piped command => some <$> command.run context piped) none =
      some <$> pipeline.run context := by
  have behind (value : String) (commands : List Command) :
      commands.foldlM (fun piped command => some <$> command.run context piped) (some value) =
        some <$> runAfter context value commands := by
    induction commands generalizing value with
    | nil => rfl
    | cons command rest ih =>
      rw [List.foldlM_cons, runAfter]
      cases command.run context (some value) with
      | error fault => rfl
      | ok next => exact ih next
  rw [commands, List.foldlM_cons, run]
  cases pipeline.first.run context none with
  | error fault => rfl
  | ok value => exact behind value pipeline.rest

end Pipeline

/-! ## Templates -/

namespace PathTemplate

private theorem runSegments_of_sound (context : Context) {segments : List Segment}
    (sound : ∀ pipeline, .action pipeline ∈ segments → pipeline.IsSound) :
    runSegments context segments = .ok (String.join (segments.map (Segment.value context))) := by
  induction segments with
  | nil => rfl
  | cons segment rest ih =>
    have head : segment.run context = .ok (segment.value context) := by
      cases segment with
      | text literal => rfl
      | action pipeline => exact (sound pipeline (List.mem_cons_self ..)).run_eq context
    have tail := ih fun pipeline member => sound pipeline (List.mem_cons_of_mem _ member)
    rw [runSegments, head, tail, List.map_cons, String.join_cons]
    rfl

private theorem runSegments_append_error {context : Context} {front back : List Segment}
    {text : String}
    {segment : Segment} {fault : ExecutionFault}
    (runs : runSegments context front = .ok text) (fails : segment.run context = .error fault) :
    runSegments context (front ++ segment :: back) = .error fault := by
  induction front generalizing text with
  | nil =>
    rw [List.nil_append, runSegments, fails]
    rfl
  | cons head rest ih =>
    rw [runSegments] at runs
    rw [List.cons_append, runSegments]
    cases headRuns : head.run context with
    | error other => simp [headRuns, bind, Except.bind] at runs
    | ok headText =>
      cases restRuns : runSegments context rest with
      | error other => simp [headRuns, restRuns, bind, Except.bind] at runs
      | ok restText =>
        rw [ih restRuns]
        rfl

variable {template : PathTemplate}

private theorem IsSound.execute_eq (sound : template.IsSound) (context : Context) :
    template.execute context = .ok (template.value context) := by
  rw [execute, runSegments_of_sound context sound]
  rfl

private theorem Reports.execute_eq {message : String} (reports : template.Reports message)
    (context : Context) : template.execute context = .error (.execution message) := by
  obtain ⟨front, pipeline, back, cut, sound, fails⟩ := reports
  obtain ⟨fault, rfl, failed⟩ := fails.run_eq
  have reported := @runSegments_append_error context front back _ (.action pipeline) fault
    (runSegments_of_sound context sound) (failed context)
  rw [execute, cut, reported]

private theorem isSound_or_reports_of_segment (segment : Segment) :
    (∀ pipeline, segment = .action pipeline → pipeline.IsSound) ∨
    ∃ pipeline message, segment = .action pipeline ∧ pipeline.Reports message := by
  cases segment with
  | text literal => exact .inl nofun
  | action pipeline =>
    rcases pipeline.isSound_or_reports with sound | ⟨message, fails⟩
    · refine .inl ?_
      rintro other ⟨⟩
      exact sound
    · exact .inr ⟨pipeline, message, rfl, fails⟩

private theorem isSound_or_reports (template : PathTemplate) :
    template.IsSound ∨ ∃ message, template.Reports message := by
  obtain ⟨segments⟩ := template
  induction segments with
  | nil => exact .inl nofun
  | cons segment rest ih =>
    rcases isSound_or_reports_of_segment segment with
      headSound | ⟨pipeline, message, rfl, fails⟩
    · rcases ih with sound | ⟨message, front, pipeline, back, cut, sound, fails⟩
      · refine .inl ?_
        intro pipeline member
        rcases List.mem_cons.mp member with same | member
        · exact headSound pipeline same.symm
        · exact sound pipeline member
      · refine .inr ⟨message, segment :: front, pipeline, back, congrArg (segment :: ·) cut, ?_,
          fails⟩
        intro other member
        rcases List.mem_cons.mp member with same | member
        · exact headSound other same.symm
        · exact sound other member
    · exact .inr ⟨message, [], pipeline, rest, rfl, nofun, fails⟩

private theorem execute_eq_ok_iff {context : Context} {text : String} :
    template.execute context = .ok text ↔ template.IsSound ∧ text = template.value context := by
  constructor
  · intro executed
    rcases template.isSound_or_reports with sound | ⟨message, reports⟩
    · rw [sound.execute_eq, Except.ok.injEq] at executed
      exact ⟨sound, executed.symm⟩
    · rw [reports.execute_eq] at executed
      contradiction
  · rintro ⟨sound, rfl⟩
    exact sound.execute_eq context

private theorem execute_eq_error_iff {context : Context} {error : ExpressionError} :
    template.execute context = .error error ↔
      ∃ message, template.Reports message ∧ error = .execution message := by
  constructor
  · intro executed
    rcases template.isSound_or_reports with sound | ⟨message, reports⟩
    · rw [sound.execute_eq] at executed
      contradiction
    · rw [reports.execute_eq, Except.error.injEq] at executed
      exact ⟨message, reports, executed.symm⟩
  · rintro ⟨message, reports, rfl⟩
    exact reports.execute_eq context

theorem evaluate_of_parse_error {source : String} {error : ExpressionError}
    (fails : parse source = .error error) (context : Context) :
    evaluate source context = .error error := by
  rw [evaluate, fails]
  rfl

theorem evaluate_of_parse {source : String} {template : PathTemplate}
    (parsed : parse source = .ok template) (context : Context) :
    evaluate source context = template.execute context := by
  rw [evaluate, parsed]
  rfl

/-- A path expression without a text in one context has none in any other, for the same reason. -/
theorem evaluate_eq_error_congr (source : String) (context other : Context)
    (error : ExpressionError) :
    evaluate source context = .error error ↔ evaluate source other = .error error := by
  cases parsed : parse source with
  | error fault =>
    rw [evaluate_of_parse_error parsed, evaluate_of_parse_error parsed]
  | ok template =>
    rw [evaluate_of_parse parsed, evaluate_of_parse parsed, execute_eq_error_iff,
      execute_eq_error_iff]

theorem eq_ok_of_toOption {ε α : Type} {result : Except ε α} {value : α}
    (shown : result.toOption = some value) : result = .ok value := by
  cases result with
  | error error => contradiction
  | ok other => exact congrArg Except.ok (Option.some.inj shown)

/-- A template has a text in a context exactly if each of its actions gives the environment name and
then only lowers it. The text is put together from its texts, as they are, and from the name,
lowered as often as each action says. Otherwise the first failing command of the first failing
action is reported. Whether there is a text and what is reported is the same in every context, and
handing the values of the commands of an action on never ends without a value. -/
theorem execute_exact (template : PathTemplate) :
    (∀ context text, template.execute context = .ok text ↔
      template.IsSound ∧ text = template.value context) ∧
    (∀ context error, template.execute context = .error error ↔
      ∃ message, template.Reports message ∧ error = .execution message) ∧
    (∀ first second error,
      template.execute first = .error error ↔ template.execute second = .error error) ∧
    ∀ pipeline, .action pipeline ∈ template.segments → ∀ context,
      let passed := pipeline.commands.foldlM
        (fun piped command => some <$> command.run context piped) none
      passed = some <$> pipeline.run context ∧ passed ≠ .ok none := by
  refine ⟨fun _ _ => execute_eq_ok_iff, fun _ _ => execute_eq_error_iff, ?_, ?_⟩
  · intro first second error
    rw [execute_eq_error_iff, execute_eq_error_iff]
  · intro pipeline _ context
    refine ⟨pipeline.foldlM_commands context, ?_⟩
    rw [pipeline.foldlM_commands]
    cases pipeline.run context with
    | error fault => exact nofun
    | ok value => exact nofun

/-- A name that looks like an action is put in as it is. -/
example :
    execute ⟨[.text "/", .action ⟨.field "Env", [.call .toLower]⟩]⟩ ⟨"\x7b\x7bENV\x7d\x7d | #"⟩ =
      .ok "/\x7b\x7benv\x7d\x7d | #" :=
  rfl

end PathTemplate

end Splice
