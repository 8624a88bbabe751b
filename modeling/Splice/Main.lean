import Splice.Aws.Library
import Splice.Invocation

/-! # The program

The outer layer: it reads the command line, the environment and the files, and writes the output.
No network client is linked in, so every request finds its service unreachable, and nothing waits
long enough to be interrupted.
-/

namespace Splice.Main

open Invocation

/-- What a failed operation on a file means, for the faults that are known by name. -/
def fileFault? : IO.Error → Option FileFault
  | .noFileOrDirectory .. => some .notFound
  | .inappropriateType _ 20 _ => some .notADirectory
  | .inappropriateType .. => some .isADirectory
  | _ => none

def readText (path : String) : IO (Except FileFault String) := do
  try
    let content ← IO.FS.readBinFile path
    return FileTree.decode content
  catch error =>
    match fileFault? error with
    | some fault => return .error fault
    | none => throw error

def readShared (path : Option String) : IO String := do
  match path with
  | none => return ""
  | some path =>
    try
      let text ← readText path
      return text.toOption.getD ""
    catch _ => return ""

def variableNames : List String :=
  ["AWS_REGION", "AWS_DEFAULT_REGION", "AWS_PROFILE", "AWS_ACCESS_KEY_ID",
    "AWS_SECRET_ACCESS_KEY", "SECRET_ACCESS_KEY"]

def surroundings : IO Aws.Surroundings := do
  let vars ← variableNames.filterMapM fun name => do
    return (← IO.getEnv name).map fun value => (name, value)
  let home ← IO.getEnv "HOME"
  let config ← IO.getEnv "AWS_CONFIG_FILE"
  let credentials ← IO.getEnv "AWS_SHARED_CREDENTIALS_FILE"
  return {
    vars := vars
    config := ← readShared (config <|> home.map (· ++ "/.aws/config"))
    credentials := ← readShared (credentials <|> home.map (· ++ "/.aws/credentials")) }

def fieldText : FieldValue → String
  | .text value => Text.quote value
  | .number value => toString value
  | .flag value => toString value

def writeLog (verbose : Bool) (events : List Event) : IO Unit := do
  for event in events do
    if verbose || event.level == .warn then
      let fields := event.fields.map fun (name, value) => " " ++ name ++ "=" ++ fieldText value
      IO.eprintln (event.level.label ++ " " ++ event.message ++ String.join fields)

/-- Writes the output to the destination, or to standard output. -/
def deliver (dest : Option String) (text : String) : IO (Option Failure) := do
  match dest with
  | none =>
    let out ← IO.getStdout
    out.putStr text
    out.flush
    return none
  | some path =>
    try
      IO.FS.writeFile path text
      return none
    catch error =>
      match fileFault? error with
      | some fault => return some (.writing path fault)
      | none => throw error

def fail (failure : Failure) : IO UInt32 := do
  IO.eprintln ("Error: " ++ failure.message)
  return 1

def run (arguments : CommandLine.Arguments) : IO UInt32 := do
  let source ← readText arguments.source
  let outside : Outside :=
    { sdk := Aws.Library.sdk 2, service := fun _ _ => .unreachable "no network client" }
  match output? outside arguments (← surroundings) source with
  -- No call hangs here, as every request fails at once.
  | none => return 1
  | some (.error failure) => fail failure
  | some (.ok (text, events)) =>
    writeLog arguments.verbose events
    match ← deliver arguments.dest text with
    | some failure => fail failure
    | none => return 0

end Splice.Main

def main (words : List String) : IO UInt32 := do
  match Splice.CommandLine.parse words (← IO.getEnv "ENV") with
  | .error error =>
    IO.print (Splice.Invocation.usageText error)
    if !error.isAnswer then IO.eprintln "error: the command line is not understood; try --help"
    return error.exitCode.toUInt32
  | .ok arguments => Splice.Main.run arguments
