import Splice.Aws.Library
import Splice.Invocation
import Splice.Proofs.FileTree
import Splice.Proofs.Render.Cut
import Splice.Proofs.Render.Warning

/-! # What an invocation leaves behind

An invocation that fails reports the first step that fails, prints nothing and leaves the files
alone. One that succeeds leaves the rendering of its source, at the destination or on standard
output, and nothing else. The main statement is `run_exact`.
-/

namespace Splice.Invocation

open CommandLine (Arguments UsageError)

variable {host : Host} {words : List String} {tree : FileTree} {arguments : Arguments}
  {document : String}

/-- The circumstances in which an invocation renders with a client that was made ready. -/
def circumstances (host : Host) (client : Aws.Client) (arguments : Arguments) : Circumstances :=
  { host.toOutside.circumstances client with deadline := arguments.deadline, heedful := true }

/-- An invocation gets as far as to render: the command line is understood, the source is a text and
the providers are ready. -/
structure Renders (host : Host) (words : List String) (tree : FileTree) (arguments : Arguments)
    (document : String) (step : Step String) : Prop where
  parsed : CommandLine.parse words (host.valueOf? "ENV") = .ok arguments
  read : tree.readText arguments.source = .ok document
  rendered : ∃ config events,
    Aws.start host.sdk (settings arguments) (host.surroundings tree) = .ok (config, events) ∧
    (circumstances host config.client arguments).render? ⟨arguments.env⟩ document host.timeline =
      some step

/-- The first step of an invocation that fails, if one does: reading the command line, reading the
source, making the providers ready, and opening the destination. -/
inductive Stops (host : Host) (words : List String) (tree : FileTree) : Ending → Prop
  | usage {error : UsageError} :
      CommandLine.parse words (host.valueOf? "ENV") = .error error →
      error.isAnswer = false →
      Stops host words tree (.usage error)
  | reading {arguments : Arguments} {fault : FileFault} :
      CommandLine.parse words (host.valueOf? "ENV") = .ok arguments →
      tree.readText arguments.source = .error fault →
      Stops host words tree (.failed (.reading arguments.source fault))
  | starting {arguments : Arguments} {document : String} {error : Aws.StartupError} :
      CommandLine.parse words (host.valueOf? "ENV") = .ok arguments →
      tree.readText arguments.source = .ok document →
      Aws.start host.sdk (settings arguments) (host.surroundings tree) = .error error →
      Stops host words tree (.failed (.starting error))
  | writing {arguments : Arguments} {document path : String} {step : Step String}
      {fault : FileFault} :
      Renders host words tree arguments document step →
      arguments.dest = some path →
      tree.openForWriting path = .error fault →
      Stops host words tree (.failed (.writing path fault))

/-- A text is delivered to a destination, or to standard output. Nothing else changes. -/
def Delivers (tree : FileTree) (text : String) (result : Result) : Option String → Prop
  | none => result.printed = text ∧ result.tree = tree
  | some path => result.printed = "" ∧ result.tree.readBytes path = .ok text.toUTF8 ∧
      ∃ place, tree.openForWriting path = .ok place ∧
        (∀ other, other ≠ place → result.tree.at? other = tree.at? other) ∧
        ∀ other content, ¬ tree.LeadsTo other place →
          (result.tree.readBytes other = .ok content ↔ tree.readBytes other = .ok content)

private theorem exists_render? (client : Aws.Client)
    (ends : arguments.deadline ≠ none ∨ host.interruptions ≠ [] ∨
      ∀ call ∈ Document.calls document, host.latency call ≠ .never) :
    ∃ step, (circumstances host client arguments).render? ⟨arguments.env⟩ document host.timeline =
      some step := by
  rcases ends with limited | interrupted | answered
  · exact Circumstances.exists_render?_of_answered _ _ fun _ _ unlimited => absurd unlimited limited
  · exact Circumstances.exists_render?_of_willCancel _ _ rfl (.inr ⟨rfl, interrupted⟩)
  · exact Circumstances.exists_render?_of_answered _ _ fun call made _ => answered call made

theorem run?_of_misuse {error : UsageError}
    (parsed : CommandLine.parse words (host.valueOf? "ENV") = .error error) :
    run? host words tree = some ⟨.usage error, usageText error, [], tree⟩ := by
  simp only [run?, parsed]

theorem run?_of_unread {fault : FileFault}
    (parsed : CommandLine.parse words (host.valueOf? "ENV") = .ok arguments)
    (read : tree.readText arguments.source = .error fault) :
    run? host words tree = some ⟨.failed (.reading arguments.source fault), "", [], tree⟩ := by
  simp only [run?, parsed, output?, read, Option.map_some]

theorem run?_of_unready {error : Aws.StartupError}
    (parsed : CommandLine.parse words (host.valueOf? "ENV") = .ok arguments)
    (read : tree.readText arguments.source = .ok document)
    (started : Aws.start host.sdk (settings arguments) (host.surroundings tree) = .error error) :
    run? host words tree = some ⟨.failed (.starting error), "", [], tree⟩ := by
  simp only [run?, parsed, output?, read, started, Option.map_some]

/-- Once the providers are ready, all depends on the rendering. -/
theorem run?_of_ready {config : Aws.Config} {startEvents : List Event}
    (parsed : CommandLine.parse words (host.valueOf? "ENV") = .ok arguments)
    (read : tree.readText arguments.source = .ok document)
    (ready : Aws.start host.sdk (settings arguments) (host.surroundings tree) =
      .ok (config, startEvents)) :
    run? host words tree =
      (render? arguments (host.toOutside.circumstances config.client) document host.timeline).map
        fun shown => deliver arguments.dest shown.value (startEvents ++ logged shown) tree := by
  simp only [run?, parsed, output?, read, ready, Option.map_map]
  rfl

private theorem Renders.run?_eq {step : Step String}
    (renders : Renders host words tree arguments document step) :
    ∃ events, run? host words tree = some (deliver arguments.dest step.value events tree) := by
  obtain ⟨config, startEvents, ready, rendered⟩ := renders.rendered
  have shown := render?_eq_some_iff.mpr ⟨step, rendered, rfl⟩
  rw [run?_of_ready renders.parsed renders.read ready, shown]
  exact ⟨_, rfl⟩

/-- What an invocation leaves behind. -/
inductive Leaves (host : Host) (words : List String) (tree : FileTree) : Result → Prop
  | answered {error : UsageError} :
      CommandLine.parse words (host.valueOf? "ENV") = .error error →
      error.isAnswer = true →
      Leaves host words tree ⟨.usage error, usageText error, [], tree⟩
  | stopped {ending : Ending} {events : List Event} :
      Stops host words tree ending →
      Leaves host words tree ⟨ending, "", events, tree⟩
  | printed {arguments : Arguments} {document : String} {step : Step String}
      {events : List Event} :
      Renders host words tree arguments document step →
      arguments.dest = none →
      Leaves host words tree ⟨.done, step.value, events, tree⟩
  | written {arguments : Arguments} {document path : String} {step : Step String}
      {events : List Event} {place : List String} :
      Renders host words tree arguments document step →
      arguments.dest = some path →
      tree.openForWriting path = .ok place →
      Leaves host words tree ⟨.done, "", events, tree.put place (.file step.value.toUTF8)⟩

private theorem leaves_run? {result : Result} (ran : run? host words tree = some result) :
    Leaves host words tree result := by
  cases parsed : CommandLine.parse words (host.valueOf? "ENV") with
  | error error =>
    obtain rfl := Option.some.inj ((run?_of_misuse parsed).symm.trans ran)
    cases asked : error.isAnswer with
    | true => exact .answered parsed asked
    | false =>
      have silent : usageText error = "" := by
        cases error with
        | helpWanted => contradiction
        | versionWanted => contradiction
        | _ => rfl
      rw [silent]
      exact .stopped (.usage parsed asked)
  | ok arguments =>
    cases read : tree.readText arguments.source with
    | error fault =>
      obtain rfl := Option.some.inj ((run?_of_unread parsed read).symm.trans ran)
      exact .stopped (.reading parsed read)
    | ok document =>
      cases started : Aws.start host.sdk (settings arguments) (host.surroundings tree) with
      | error error =>
        obtain rfl := Option.some.inj ((run?_of_unready parsed read started).symm.trans ran)
        exact .stopped (.starting parsed read started)
      | ok ready =>
        rw [run?_of_ready parsed read started] at ran
        obtain ⟨shown, rendered, rfl⟩ := Option.map_eq_some_iff.mp ran
        obtain ⟨step, finished, rfl⟩ := render?_eq_some_iff.mp rendered
        have renders : Renders host words tree arguments document step :=
          ⟨parsed, read, _, _, started, finished⟩
        change Leaves host words tree (deliver arguments.dest step.value _ tree)
        cases dest : arguments.dest with
        | none => exact .printed renders dest
        | some path =>
          simp only [deliver, FileTree.writeText_eq]
          cases opened : tree.openForWriting path with
          | ok place => exact .written renders dest opened
          | error fault => exact .stopped (.writing renders dest opened)

/-- An invocation ends at the first step that fails. -/
theorem exists_run?_of_stops {ending : Ending} (stops : Stops host words tree ending) :
    ending.exitCode ≠ 0 ∧
      ∃ result, run? host words tree = some result ∧ result.ending = ending := by
  cases stops with
  | usage parsed unasked =>
    exact ⟨by simp [Ending.exitCode, UsageError.exitCode, unasked], _, run?_of_misuse parsed, rfl⟩
  | reading parsed read => exact ⟨by simp [Ending.exitCode], _, run?_of_unread parsed read, rfl⟩
  | starting parsed read started =>
    exact ⟨by simp [Ending.exitCode], _, run?_of_unready parsed read started, rfl⟩
  | writing renders dest opened =>
    obtain ⟨events, ran⟩ := renders.run?_eq
    refine ⟨by simp [Ending.exitCode], _, ran, ?_⟩
    simp [deliver, dest, FileTree.writeText_eq, opened, Except.map]

private theorem Renders.readBytes_of_unsupported {step : Step String}
    (renders : Renders host words tree arguments document step)
    (unsupported : ∀ placeholder ∈ Document.scan document, ¬ placeholder.IsSupported) :
    tree.readBytes arguments.source = .ok step.value.toUTF8 := by
  obtain ⟨config, _, _, rendered⟩ := renders.rendered
  obtain ⟨copied, otherwise, same, _⟩ := Circumstances.render?_of_unsupported
    (circumstances host config.client arguments) ⟨arguments.env⟩ host.timeline unsupported
  obtain rfl := Option.some.inj (rendered.symm.trans otherwise)
  rw [same]
  exact FileTree.readBytes_of_readText renders.read

private theorem stops_iff {ending : Ending} :
    Stops host words tree ending ↔
      ending.exitCode ≠ 0 ∧ ∃ result, run? host words tree = some result ∧
        result.ending = ending := by
  refine ⟨exists_run?_of_stops, ?_⟩
  rintro ⟨fails, result, ran, rfl⟩
  cases leaves_run? ran with
  | answered parsed asked => exact absurd (if_pos asked) fails
  | stopped stops => exact stops
  | printed renders dest => exact absurd rfl fails
  | written renders dest opened => exact absurd rfl fails

private theorem exists_hanging_of_run?_eq_none (endless : run? host words tree = none) :
    ∃ arguments document call,
      CommandLine.parse words (host.valueOf? "ENV") = .ok arguments ∧
      tree.readText arguments.source = .ok document ∧ call ∈ Document.calls document ∧
      host.latency call = .never ∧ arguments.deadline = none ∧ host.interruptions = [] := by
  cases parsed : CommandLine.parse words (host.valueOf? "ENV") with
  | error error => simp [run?_of_misuse parsed] at endless
  | ok arguments =>
    cases read : tree.readText arguments.source with
    | error fault => simp [run?_of_unread parsed read] at endless
    | ok document =>
      cases started : Aws.start host.sdk (settings arguments) (host.surroundings tree) with
      | error error => simp [run?_of_unready parsed read started] at endless
      | ok ready =>
        rw [run?_of_ready parsed read started, Option.map_eq_none_iff] at endless
        have hangs : ¬ (arguments.deadline ≠ none ∨ host.interruptions ≠ [] ∨
            ∀ call ∈ Document.calls document, host.latency call ≠ .never) := by
          intro ends
          obtain ⟨step, rendered⟩ := exists_render? ready.1.client ends
          rw [render?, Option.map_eq_none_iff] at endless
          exact Option.some_ne_none step (rendered.symm.trans endless)
        simp only [not_or, ne_eq, not_not, not_forall, exists_prop] at hangs
        obtain ⟨unlimited, uninterrupted, call, made, never⟩ := hangs
        exact ⟨arguments, document, call, rfl, read, made, never, unlimited, uninterrupted⟩

namespace Leaves

variable {result : Result}

private theorem untouched (leaves : Leaves host words tree result)
    (fails : result.ending.exitCode ≠ 0) :
    result.printed = "" ∧ result.tree = tree := by
  cases leaves with
  | answered parsed asked => exact absurd (if_pos asked) fails
  | stopped stops => exact ⟨rfl, rfl⟩
  | printed renders dest => exact absurd rfl fails
  | written renders dest opened => exact absurd rfl fails

private theorem ending_cases (leaves : Leaves host words tree result)
    (zero : result.ending.exitCode = 0) :
    result.ending = .usage .helpWanted ∨ result.ending = .usage .versionWanted ∨
      result.ending = .done := by
  cases leaves with
  | @answered error parsed asked =>
    cases error with
    | helpWanted => exact .inl rfl
    | versionWanted => exact .inr (.inl rfl)
    | _ => contradiction
  | stopped stops => exact absurd zero (exists_run?_of_stops stops).1
  | printed renders dest => exact .inr (.inr rfl)
  | written renders dest opened => exact .inr (.inr rfl)

private theorem delivers (leaves : Leaves host words tree result) (done : result.ending = .done) :
    ∃ arguments document step, Renders host words tree arguments document step ∧
      Delivers tree step.value result arguments.dest ∧
      (tree.readBytes arguments.source = .ok step.value.toUTF8 →
        ∀ path place, arguments.dest = some path → tree.LeadsTo path place →
          tree.LeadsTo arguments.source place → ∀ any, result.tree.at? any = tree.at? any) := by
  cases leaves with
  | answered parsed asked => contradiction
  | stopped stops =>
    obtain rfl := done
    exact absurd rfl (exists_run?_of_stops stops).1
  | @printed arguments document step events renders dest =>
    refine ⟨arguments, document, step, renders, ?_, ?_⟩
    · rw [dest]
      exact ⟨rfl, rfl⟩
    · intro copied path place otherwise
      rw [dest] at otherwise
      contradiction
  | @written arguments document path step events place renders dest opened =>
    refine ⟨arguments, document, step, renders, ?_, ?_⟩
    · rw [dest]
      exact ⟨rfl, FileTree.readBytes_put_self opened, place, opened,
        fun other apart => FileTree.at?_put_of_ne tree _ apart,
        fun other content elsewhere => FileTree.readBytes_put_of_elsewhere opened elsewhere⟩
    · intro copied other reached same leads source
      obtain rfl : path = other := Option.some.inj (dest.symm.trans same)
      obtain rfl := leads.unique ⟨false, (FileTree.openForWriting_eq_ok_iff.mp opened).1⟩
      exact FileTree.at?_put_of_readBytes copied source

end Leaves

/-- An invocation that exits with another code than zero reports the first step that fails, prints
nothing and leaves every file as it is. One that exits with zero, and was not asked for help or for
the version, delivers the rendering of its source and changes nothing else. If no placeholder of the
source is supported, the rendering is the source byte by byte; and where it is written to the source
itself, no file changes. The only invocation that does not exit is one that waits for a call that
hangs, without a timeout and without being interrupted. -/
theorem run_exact (host : Host) (words : List String) (tree : FileTree) :
    (∀ ending, Stops host words tree ending ↔
      ending.exitCode ≠ 0 ∧ ∃ result, run? host words tree = some result ∧
        result.ending = ending) ∧
    (run? host words tree = none → ∃ arguments document call,
      CommandLine.parse words (host.valueOf? "ENV") = .ok arguments ∧
      tree.readText arguments.source = .ok document ∧ call ∈ Document.calls document ∧
      host.latency call = .never ∧ arguments.deadline = none ∧ host.interruptions = []) ∧
    ∀ result, run? host words tree = some result →
      (result.ending.exitCode ≠ 0 → result.printed = "" ∧ result.tree = tree) ∧
      (result.ending.exitCode = 0 →
        result.ending = .usage .helpWanted ∨ result.ending = .usage .versionWanted ∨
        result.ending = .done ∧ ∃ arguments document step,
          Renders host words tree arguments document step ∧
          Delivers tree step.value result arguments.dest ∧
          ((∀ placeholder ∈ Document.scan document, ¬ placeholder.IsSupported) →
            tree.readBytes arguments.source = .ok step.value.toUTF8 ∧
            ∀ path place, arguments.dest = some path → tree.LeadsTo path place →
              tree.LeadsTo arguments.source place →
              ∀ any, result.tree.at? any = tree.at? any)) := by
  refine ⟨fun ending => stops_iff, exists_hanging_of_run?_eq_none, fun result ran => ?_⟩
  have leaves : Leaves host words tree result := leaves_run? ran
  refine ⟨leaves.untouched, fun zero => ?_⟩
  rcases leaves.ending_cases zero with help | version | done
  · exact .inl help
  · exact .inr (.inl version)
  · obtain ⟨arguments, document, step, renders, delivers, inPlace⟩ := leaves.delivers done
    refine .inr (.inr ⟨done, arguments, document, step, renders, delivers, fun unsupported => ?_⟩)
    have copied := renders.readBytes_of_unsupported unsupported
    exact ⟨copied, inPlace copied⟩

/-- A source without supported placeholders that is its own destination under another name, and a
destination that is a directory. -/
theorem run_exact_in_place :
    let host : Host :=
      { sdk := Aws.Library.sdk 2, service := fun _ _ => .value "v"
        vars := [("AWS_REGION", "r"), ("AWS_ACCESS_KEY_ID", "i"), ("AWS_SECRET_ACCESS_KEY", "k")]
        configPath := "", credentialsPath := "" }
    let tree : FileTree := { entries := [(["t"], .file "é{{x}}".toUTF8)] }
    ∃ inPlace refused,
      run? host ["-s", "t", "-d", "./t"] tree = some inPlace ∧ inPlace.ending = .done ∧
      inPlace.printed = "" ∧ (∀ any, inPlace.tree.at? any = tree.at? any) ∧
      run? host ["-s", "t", "-d", "."] tree = some refused ∧
      refused.ending = .failed (.writing "." .isADirectory) ∧ refused.printed = "" ∧
      refused.tree = tree := by
  intro host tree
  have ended : (run? host ["-s", "t", "-d", "./t"] tree).map Result.ending = some .done := by
    decide +kernel
  have stopped : (run? host ["-s", "t", "-d", "."] tree).map Result.ending =
      some (.failed (.writing "." .isADirectory)) := by decide +kernel
  obtain ⟨inPlace, ran, done⟩ := Option.map_eq_some_iff.mp ended
  obtain ⟨refused, otherRan, failed⟩ := Option.map_eq_some_iff.mp stopped
  have fails : refused.ending.exitCode ≠ 0 := by simp [failed, Ending.exitCode]
  have finished := ((run_exact host ["-s", "t", "-d", "./t"] tree).2.2 inPlace ran).2
    (congrArg Ending.exitCode done)
  have untouched := ((run_exact host ["-s", "t", "-d", "."] tree).2.2 refused otherRan).1 fails
  suffices copied : inPlace.printed = "" ∧ ∀ any, inPlace.tree.at? any = tree.at? any from
    ⟨inPlace, refused, ran, done, copied.1, copied.2, otherRan, failed, untouched⟩
  rcases finished with asked | asked | ⟨_, arguments, document, step, renders, delivers, copies⟩
  · exact Ending.noConfusion (asked.symm.trans done)
  · exact Ending.noConfusion (asked.symm.trans done)
  · have parsed : CommandLine.parse ["-s", "t", "-d", "./t"] (host.valueOf? "ENV") =
        .ok ⟨"t", some "./t", "", none, none, none, false⟩ := by decide +kernel
    have read : tree.readText "t" = .ok "é{{x}}" := by decide +kernel
    obtain rfl := Except.ok.inj (renders.parsed.symm.trans parsed)
    obtain rfl := Except.ok.inj (renders.read.symm.trans read)
    have left : ∀ placeholder ∈ Document.scan "é{{x}}", ¬ placeholder.IsSupported := by
      decide +kernel
    exact ⟨delivers.1, (copies left).2 "./t" ["t"] rfl ⟨false, by decide +kernel⟩
      ⟨false, by decide +kernel⟩⟩

/-- A call that hangs, until the user interrupts. -/
example :
    let host : Host :=
      { sdk := Aws.Library.sdk 2, service := fun _ _ => .value "v"
        latency := fun _ => .never, interruptions := [7]
        vars := [("AWS_REGION", "r"), ("AWS_ACCESS_KEY_ID", "i"), ("AWS_SECRET_ACCESS_KEY", "k")]
        configPath := "", credentialsPath := "" }
    let tree : FileTree := { entries := [(["t"], .file "{{aws:ssm:p}}".toUTF8)] }
    (run? host ["-s", "t"] tree).map (fun result => (result.ending, result.printed)) =
        some (.done, "{{ERROR:operation cancelled}}") ∧
      (run? host ["-s", "t"] tree).map (·.events.contains .interrupted) = some true ∧
      run? { host with interruptions := [] } ["-s", "t"] tree = none := by
  decide +kernel

end Splice.Invocation
