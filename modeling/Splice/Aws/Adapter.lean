import Splice.Aws.Sdk
import Splice.Gateway
import Splice.Secret

/-! # Parameters and secrets from AWS

Each call becomes one request, which is handed to the client, and the answer that the client brings
decides the result. A service says in its own way that it has no such value; every other failure is
a failure of transport.
-/

namespace Splice.Aws

def notFound : Call → ResolveError
  | .parameter name => .parameterNotFound name
  | .secret id _ => .secretNotFound id

def request : Call → Request
  | .parameter name => .getParameter name true
  | .secret id _ => .getSecretValue id

def announcement : Call → Event
  | .parameter name => .fetchingParameter name
  | .secret id field => .fetchingSecret id field.isSome

/-- The result of a call whose request brought an entry, or none. -/
def ofEntry (call : Call) (text : Option String) : CallResult :=
  match call with
  | .parameter name =>
    match text with
    | some value => .ok value
    | none => .error (.parameterNotFound name)
  | .secret id field => Secret.select id text field

def ofAnswer (client : Client) (call : Call) (answer : Answer) : CallResult :=
  match answer with
  | .value text => ofEntry call (some text)
  | .empty | .absent => ofEntry call none
  | .serviceError code _ =>
    if errorType code = (request call).absenceError then .error (notFound call)
    else .error (.transport (client.failureText (request call) answer))
  | .unreachable _ | .malformed =>
    .error (.transport (client.failureText (request call) answer))

/-- A call carried out: the requests sent, in order, and what came of it. -/
structure Lookup where
  requests : List Request
  event : Event
  result : CallResult

def lookup (client : Client) (service : Service) (call : Call) : Lookup :=
  let delivery := client.deliver (request call) (service (request call))
  { requests := List.replicate delivery.sendings (request call)
    event := announcement call
    result := ofAnswer client call delivery.answer }

/-- The gateway that asks a service. -/
def gateway (client : Client) (service : Service) : Gateway := fun call =>
  let done := lookup client service call
  { result := done.result, events := [done.event] }

end Splice.Aws
