import Splice.Event

/-! # Provider calls

A gateway answers calls for parameters and secrets. An answer takes some time, or never comes.
-/

namespace Splice

/-- A call to a provider. -/
inductive Call
  | parameter (name : String)
  | secret (id : String) (field : Option String)
  deriving DecidableEq, Repr

def Call.key : Call → String
  | parameter name => name
  | secret id _ => id

def Call.provider : Call → Provider
  | parameter _ => .ssm
  | secret .. => .secretsManager

def Reference.call (reference : Reference) (target : String) : Call :=
  match reference with
  | .parameter _ => .parameter target
  | .secret _ field => .secret target field

abbrev CallResult := Except ResolveError String

/-- How long an answer takes, in milliseconds. -/
inductive Latency
  | after (milliseconds : Nat)
  | never
  deriving DecidableEq, Repr

/-- An answer to a call: its result, when it comes, and what was logged on the way. -/
structure Response where
  result : CallResult
  latency : Latency := .after 0
  events : List Event := []

abbrev Gateway := Call → Response

def Gateway.paced (gateway : Gateway) (latency : Call → Latency) : Gateway :=
  fun call => { gateway call with latency := latency call }

end Splice
