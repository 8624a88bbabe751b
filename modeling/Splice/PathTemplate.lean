import Splice.ResolveError
import Splice.Text.LowerCase

/-! # Path templates

The path of a reference is a text in which actions stand for values of the context. An action is a
pipeline of commands; the value of each command is handed to the next one.
-/

namespace Splice

/-- The values that a path expression can see. -/
structure Context where
  env : String := ""
  deriving DecidableEq, Repr

def Context.field? (context : Context) (name : String) : Option String :=
  if name = "Env" then some context.env else none

/-- The functions that an action may call. -/
inductive Function
  | env
  | toLower
  deriving DecidableEq, Repr

namespace Function

/-- Every function. -/
def all : List Function := [env, toLower]

def name : Function → String
  | env => "env"
  | toLower => "toLower"

def arity : Function → Nat
  | env => 0
  | toLower => 1

def named? (name : String) : Option Function :=
  all.find? (·.name = name)

end Function

/-- A command of a pipeline. -/
inductive Command
  | call (function : Function)
  | field (name : String)
  deriving DecidableEq, Repr

/-- A pipeline has at least one command. -/
structure Pipeline where
  first : Command
  rest : List Command
  deriving DecidableEq, Repr

def Pipeline.commands (pipeline : Pipeline) : List Command :=
  pipeline.first :: pipeline.rest

/-- A stretch of literal text, or an action. -/
inductive Segment
  | text (text : String)
  | action (pipeline : Pipeline)
  deriving DecidableEq, Repr

/-- A parsed path expression. -/
structure PathTemplate where
  segments : List Segment
  deriving DecidableEq, Repr

/-- Why a command cannot be carried out. -/
inductive ExecutionFault
  | wrongArgumentCount (function : Function) (got : Nat)
  | argumentToField (name : String)
  | unknownField (name : String)
  deriving DecidableEq, Repr

def ExecutionFault.message : ExecutionFault → String
  | wrongArgumentCount function got =>
    "wrong number of args for " ++ function.name ++ ": want " ++ toString function.arity ++
      " got " ++ toString got
  | argumentToField name => "can't give argument to non-function ." ++ name
  | unknownField name => "can't evaluate field " ++ name

/-- The value of a command, given the value of the command before it. -/
def Command.run (context : Context) : Command → Option String → Except ExecutionFault String
  | .call .env, none => .ok context.env
  | .call .toLower, some value => .ok (Text.lower value)
  | .call function, none => .error (.wrongArgumentCount function 0)
  | .call function, some _ => .error (.wrongArgumentCount function 1)
  | .field name, some _ => .error (.argumentToField name)
  | .field name, none =>
    match context.field? name with
    | some value => .ok value
    | none => .error (.unknownField name)

def runAfter (context : Context) : String → List Command → Except ExecutionFault String
  | value, [] => .ok value
  | value, command :: rest => do
    let value ← command.run context (some value)
    runAfter context value rest

def Pipeline.run (context : Context) (pipeline : Pipeline) : Except ExecutionFault String := do
  let value ← pipeline.first.run context none
  runAfter context value pipeline.rest

def Segment.run (context : Context) : Segment → Except ExecutionFault String
  | .text literal => .ok literal
  | .action pipeline => pipeline.run context

namespace PathTemplate

/-- The texts of segments in order, up to the first segment that has none. -/
def runSegments (context : Context) : List Segment → Except ExecutionFault String
  | [] => .ok ""
  | segment :: rest => do
    let head ← segment.run context
    let tail ← runSegments context rest
    return head ++ tail

def execute (template : PathTemplate) (context : Context) : Except ExpressionError String :=
  match runSegments context template.segments with
  | .ok text => .ok text
  | .error fault => .error (.execution fault.message)

end PathTemplate

end Splice
