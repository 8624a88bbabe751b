import Splice.Aws.Adapter
import Splice.Aws.Startup
import Splice.CommandLine
import Splice.FileTree
import Splice.Render

/-! # An invocation

One invocation reads a source, makes the providers ready, renders, and writes the output to a file
or to standard output. It stops at the first step that fails, and nothing is written before
everything else has succeeded. Placeholders that fail are no failure of the invocation. An
interruption cancels the lookups that are still to come, and the invocation goes on. It has no end
if a call has none.
-/

namespace Splice.Invocation

open CommandLine (Arguments UsageError)

/-- Why an invocation stops before its end. -/
inductive Failure
  | reading (path : String) (fault : FileFault)
  | starting (error : Aws.StartupError)
  | writing (path : String) (fault : FileFault)
  deriving DecidableEq, Repr

def Failure.message : Failure → String
  | reading path fault => "read file " ++ path ++ ": " ++ fault.message
  | starting error => "initialize AWS providers: " ++ error.message
  | writing path fault => "write file " ++ path ++ ": " ++ fault.message

/-- Renders a document as arguments ask for, and warns if the output holds error markers. -/
def render? (arguments : Arguments) (circumstances : Circumstances) (document : String)
    (t : Timeline) : Option (Step String) :=
  let circumstances :=
    { circumstances with deadline := arguments.deadline, heedful := true }
  (circumstances.render? ⟨arguments.env⟩ document t).map fun step =>
    if Marker.occursIn step.value then
      { step with events := step.events ++ [.unresolved arguments.source] }
    else step

def settings (arguments : Arguments) : Aws.Settings :=
  { region := arguments.region, profile := arguments.profile }

/-- The world outside of an invocation: the SDK, the service, the time that the answers to calls
take, and the instants at which the user interrupts, all in milliseconds. -/
structure Outside where
  sdk : Aws.Sdk
  service : Aws.Service
  latency : Call → Latency := fun _ => .after 0
  interruptions : List Nat := []

/-- The circumstances of a rendering with a client that was made ready. -/
def Outside.circumstances (outside : Outside) (client : Aws.Client) : Circumstances :=
  { gateway := (Aws.gateway client outside.service).paced outside.latency }

def Outside.timeline (outside : Outside) : Timeline :=
  { alarms := outside.interruptions }

def isCancellation : Event → Bool
  | .failed _ .cancelled => true
  | _ => false

/-- The log of a rendering. An interruption is noticed before the first placeholder that it
cancels. -/
def logged (step : Step String) : List Event :=
  if step.after.cancelled then
    step.events.takeWhile (!isCancellation ·) ++
      .interrupted :: step.events.dropWhile (!isCancellation ·)
  else step.events

/-- The output of an invocation and its log, given what reading the source brought. The result is
nothing if a call never ends. -/
def output? (outside : Outside) (arguments : Arguments) (surroundings : Aws.Surroundings)
    (source : Except FileFault String) : Option (Except Failure (String × List Event)) :=
  match source with
  | .error fault => some (.error (.reading arguments.source fault))
  | .ok document =>
    match Aws.start outside.sdk (settings arguments) surroundings with
    | .error error => some (.error (.starting error))
    | .ok (config, startEvents) =>
      (render? arguments (outside.circumstances config.client) document outside.timeline).map
        fun step => .ok (step.value, startEvents ++ logged step)

/-- What an invocation finds around it, apart from the files it is about. -/
structure Host extends Outside where
  vars : List (String × String) := []
  configPath : String
  credentialsPath : String

def Host.valueOf? (host : Host) (name : String) : Option String :=
  host.vars.lookup name

/-- Where region and credentials are looked for. A shared file that is not there is empty. -/
def Host.surroundings (host : Host) (tree : FileTree) : Aws.Surroundings :=
  { vars := host.vars
    config := (tree.readText host.configPath).toOption.getD ""
    credentials := (tree.readText host.credentialsPath).toOption.getD "" }

/-- How an invocation ends. -/
inductive Ending
  /-- The output went to a file or to standard output. -/
  | done
  /-- The command line leads to no run. -/
  | usage (error : UsageError)
  /-- A step failed. -/
  | failed (failure : Failure)
  deriving DecidableEq, Repr

namespace Ending

def exitCode : Ending → Nat
  | done => 0
  | usage error => error.exitCode
  | failed _ => 1

def report? : Ending → Option String
  | failed failure => some ("Error: " ++ failure.message)
  | _ => none

end Ending

def versionText : String := "tplr 0.1.0\n"

def helpLines : List String :=
  ["Render a template, replacing `\x7b\x7baws:ssm:...\x7d\x7d` and " ++
      "`\x7b\x7baws:secretsmanager:...\x7d\x7d` placeholders with their values",
    "",
    "Usage: tplr [OPTIONS] --source <PATH>",
    "",
    "Options:",
    "  -s, --source <PATH>    Template file to render [aliases: --file]",
    "  -d, --dest <PATH>      Output file; standard output when omitted [aliases: --out]",
    "      --env <NAME>       Environment name available as `\x7b\x7benv\x7d\x7d` inside " ++
      "reference paths [env: ENV=] [default: \"\"]",
    "      --region <REGION>  AWS region, overriding the SDK default chain",
    "      --profile <NAME>   AWS profile from the shared config files",
    "      --timeout <SECS>   Deadline for each provider call, in seconds",
    "  -v, --verbose          Log provider calls and render summary",
    "  -h, --help             Print help",
    "  -V, --version          Print version"]

def helpText : String :=
  String.join (helpLines.map (· ++ "\n"))

/-- What standard output shows for a command line that leads to no run. -/
def usageText : UsageError → String
  | .helpWanted => helpText
  | .versionWanted => versionText
  | _ => ""

/-- What an invocation leaves behind: how it ended, what it printed, its log and the files. -/
structure Result where
  ending : Ending
  printed : String := ""
  events : List Event := []
  tree : FileTree

/-- Delivers an output to the destination, or to standard output. -/
def deliver (dest : Option String) (text : String) (events : List Event) (tree : FileTree) :
    Result :=
  match dest with
  | none => ⟨.done, text, events, tree⟩
  | some path =>
    match tree.writeText path text with
    | .ok written => ⟨.done, "", events, written⟩
    | .error fault => ⟨.failed (.writing path fault), "", events, tree⟩

/-- Carries out an invocation on a tree of files. The result is nothing if a call never ends. -/
def run? (host : Host) (words : List String) (tree : FileTree) : Option Result :=
  match CommandLine.parse words (host.valueOf? "ENV") with
  | .error error => some ⟨.usage error, usageText error, [], tree⟩
  | .ok arguments =>
    (output? host.toOutside arguments (host.surroundings tree)
      (tree.readText arguments.source)).map fun
    | .error failure => ⟨.failed failure, "", [], tree⟩
    | .ok (text, events) => deliver arguments.dest text events tree

end Splice.Invocation
