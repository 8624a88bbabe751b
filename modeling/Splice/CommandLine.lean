/-! # The command line

Options may come in any order and each at most once. An option that takes a value has it after an
equals sign, as the next word, or, behind a single letter, right after the letter. There are no
positional arguments.

A value that is a word of its own is taken in only when the next known option or the end comes, so
a word that cannot be understood is reported before a bad value in front of it.
-/

namespace Splice.CommandLine

/-- The options that take a value. -/
inductive Key
  | source
  | dest
  | env
  | region
  | profile
  | timeout
  deriving DecidableEq, Repr

/-- The options without a value. -/
inductive Switch
  | verbose
  | help
  | version
  deriving DecidableEq, Repr

def Key.ofLong? : String → Option Key
  | "source" | "file" => some .source
  | "dest" | "out" => some .dest
  | "env" => some .env
  | "region" => some .region
  | "profile" => some .profile
  | "timeout" => some .timeout
  | _ => none

def Key.ofLetter? : Char → Option Key
  | 's' => some .source
  | 'd' => some .dest
  | _ => none

def Switch.ofLong? : String → Option Switch
  | "verbose" => some .verbose
  | "help" => some .help
  | "version" => some .version
  | _ => none

def Switch.ofLetter? : Char → Option Switch
  | 'v' => some .verbose
  | 'h' => some .help
  | 'V' => some .version
  | _ => none

/-- Why a command line leads to no run. -/
inductive UsageError
  | missingSource
  | missingValue
  | badValue
  | unknownWord
  | repeated
  | unwantedValue
  | helpWanted
  | versionWanted
  deriving DecidableEq, Repr

namespace UsageError

/-- Whether the user asked for it: help and version are answers and no errors. -/
def isAnswer : UsageError → Bool
  | helpWanted | versionWanted => true
  | _ => false

def exitCode (error : UsageError) : Nat :=
  if error.isAnswer then 0 else 2

end UsageError

/-- The arguments of a run. -/
structure Arguments where
  source : String
  dest : Option String
  env : String
  region : Option String
  profile : Option String
  timeout : Option Nat
  verbose : Bool
  deriving DecidableEq, Repr

/-- The arguments given so far. -/
structure Draft where
  source : Option String := none
  dest : Option String := none
  env : Option String := none
  region : Option String := none
  profile : Option String := none
  timeout : Option Nat := none
  verbose : Bool := false
  deriving DecidableEq, Repr

def greatestTimeout : Nat := Nat.pow 2 64 - 1

/-- A timeout: digits after an optional plus sign, for a number from one to the largest. -/
def timeout? (text : List Char) : Option Nat :=
  let digits := match text with
    | '+' :: rest => rest
    | rest => rest
  if digits.isEmpty || !digits.all Char.isDigit then none
  else
    let value := digits.foldl (fun value digit => value * 10 + (digit.toNat - '0'.toNat)) 0
    if 1 ≤ value ∧ value ≤ greatestTimeout then some value else none

namespace Draft

/-- Whether an option has a value already. -/
def has (draft : Draft) : Key → Bool
  | .source => draft.source.isSome
  | .dest => draft.dest.isSome
  | .env => draft.env.isSome
  | .region => draft.region.isSome
  | .profile => draft.profile.isSome
  | .timeout => draft.timeout.isSome

def set (draft : Draft) (key : Key) (value : String) : Except UsageError Draft :=
  if draft.has key then .error .repeated
  else match key with
    | .source =>
      if value.isEmpty then .error .missingValue else .ok { draft with source := some value }
    | .dest =>
      if value.isEmpty then .error .missingValue else .ok { draft with dest := some value }
    | .env => .ok { draft with env := some value }
    | .region => .ok { draft with region := some value }
    | .profile => .ok { draft with profile := some value }
    | .timeout =>
      match timeout? value.toList with
      | some seconds => .ok { draft with timeout := some seconds }
      | none => .error .badValue

def turnOn (draft : Draft) : Switch → Except UsageError Draft
  | .verbose => if draft.verbose then .error .repeated else .ok { draft with verbose := true }
  | .help => .error .helpWanted
  | .version => .error .versionWanted

end Draft

/-- An option whose value is a word of its own, before and after the word came. -/
inductive Waiting
  | nothing
  | value (key : Key)
  | settling (key : Key) (value : String)
  deriving DecidableEq, Repr

/-- How far a command line was read. After a double dash nothing but positional arguments may
follow. -/
structure Progress where
  draft : Draft := {}
  waiting : Waiting := .nothing
  onlyPositional : Bool := false
  deriving DecidableEq, Repr

namespace Progress

def settle (progress : Progress) : Except UsageError Draft :=
  match progress.waiting with
  | .nothing => .ok progress.draft
  | .value _ => .error .missingValue
  | .settling key value => progress.draft.set key value

def meetKey (progress : Progress) (key : Key) (attached : Option String) :
    Except UsageError Progress := do
  let draft ← progress.settle
  match attached with
  | none => return { progress with draft := draft, waiting := .value key }
  | some value =>
    let draft ← draft.set key value
    return { progress with draft := draft, waiting := .nothing }

def meetSwitch (progress : Progress) (switch : Switch) : Except UsageError Progress := do
  let draft ← progress.settle
  let draft ← draft.turnOn switch
  return { progress with draft := draft, waiting := .nothing }

def meetLong (progress : Progress) (text : List Char) : Except UsageError Progress :=
  let name := String.ofList (text.takeWhile (· != '='))
  let attached := match text.dropWhile (· != '=') with
    | [] => none
    | _ :: value => some (String.ofList value)
  match Key.ofLong? name, Switch.ofLong? name with
  | some key, _ => progress.meetKey key attached
  | none, some switch =>
    if attached.isSome then .error .unwantedValue else progress.meetSwitch switch
  | none, none => .error .unknownWord

/-- Meets the letters after a single dash. The first letter of an option with a value ends them. -/
def meetLetters (progress : Progress) : List Char → Except UsageError Progress
  | [] => .ok progress
  | letter :: rest =>
    match Key.ofLetter? letter, Switch.ofLetter? letter with
    | some key, _ =>
      match rest with
      | [] => progress.meetKey key none
      | '=' :: value => progress.meetKey key (some (String.ofList value))
      | value => progress.meetKey key (some (String.ofList value))
    | none, some switch => do
      let progress ← progress.meetSwitch switch
      progress.meetLetters rest
    | none, none => .error .unknownWord

/-- Meets a word that is no option: the value that is waited for, or one too many. -/
def meetPlain (progress : Progress) (word : String) : Except UsageError Progress :=
  match progress.waiting with
  | .value key => .ok { progress with waiting := .settling key word }
  | _ => .error .unknownWord

def meet (progress : Progress) (word : String) : Except UsageError Progress :=
  if progress.onlyPositional then .error .unknownWord
  else
    match word.toList with
    | ['-', '-'] => .ok { progress with onlyPositional := true }
    | '-' :: '-' :: text => progress.meetLong text
    | '-' :: letter :: letters => progress.meetLetters (letter :: letters)
    | _ => progress.meetPlain word

end Progress

/-- The arguments of a draft. The environment name falls back to a variable, and to nothing. -/
def Draft.finish (draft : Draft) (envVariable : Option String) : Except UsageError Arguments :=
  match draft.source with
  | none => .error .missingSource
  | some source =>
    .ok {
      source := source
      dest := draft.dest
      env := (draft.env <|> envVariable).getD ""
      region := draft.region
      profile := draft.profile
      timeout := draft.timeout
      verbose := draft.verbose }

/-- Reads a command line, given the value of the environment variable for the environment name. -/
def parse (words : List String) (envVariable : Option String) : Except UsageError Arguments := do
  let progress ← words.foldlM Progress.meet {}
  let draft ← progress.settle
  draft.finish envVariable

/-- The deadline of each call in milliseconds, if one was asked for. -/
def Arguments.deadline (arguments : Arguments) : Option Nat :=
  arguments.timeout.map (1000 * ·)

end Splice.CommandLine
