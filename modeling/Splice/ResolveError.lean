/-! # Why a placeholder could not be resolved

None of these failures ends a run: each is shown in the document at the place of the placeholder
it belongs to.
-/

namespace Splice

/-- Why a path expression has no value. -/
inductive ExpressionError
  /-- The expression is malformed. -/
  | parse (message : String)
  /-- The expression is well formed, and one of its commands cannot be carried out. -/
  | execution (message : String)
  deriving DecidableEq, Repr

def ExpressionError.message : ExpressionError → String
  | .parse message => "template parse error: " ++ message
  | .execution message => "template execution error: " ++ message

/-- The broad classes of failures. -/
inductive ErrorKind
  | expression
  | notFound
  | transport
  | payloadShape
  deriving DecidableEq, Repr

def ErrorKind.label : ErrorKind → String
  | .expression => "expression"
  | .notFound => "not_found"
  | .transport => "transport"
  | .payloadShape => "payload_shape"

/-- Why a placeholder could not be resolved. -/
inductive ResolveError
  /-- The path expression has no value. -/
  | expression (error : ExpressionError)
  /-- The parameter store has no parameter of this name. -/
  | parameterNotFound (name : String)
  /-- The secret store has no secret of this identifier. -/
  | secretNotFound (id : String)
  /-- The secret has no text. -/
  | noStringValue (id : String)
  /-- A field was asked for and the secret is not a flat object of texts. -/
  | invalidJson (id reason : String)
  /-- The secret has no such field. -/
  | keyNotFound (key id : String)
  /-- The call to the provider failed. -/
  | transport (message : String)
  /-- The call took longer than its deadline, in milliseconds. -/
  | timeout (milliseconds : Nat)
  /-- The run was cancelled before the call had ended. -/
  | cancelled
  deriving DecidableEq, Repr

namespace ResolveError

def message : ResolveError → String
  | expression error => error.message
  | parameterNotFound name => "parameter " ++ name ++ " not found"
  | secretNotFound id => "secret " ++ id ++ " not found"
  | noStringValue id => "secret " ++ id ++ " has no string value"
  | invalidJson id reason => "secret " ++ id ++ " is not valid JSON: " ++ reason
  | keyNotFound key id => "key " ++ key ++ " not found in secret " ++ id
  | transport message => message
  | timeout milliseconds => "provider call timed out after " ++ toString milliseconds ++ "ms"
  | cancelled => "operation cancelled"

def kind : ResolveError → ErrorKind
  | expression _ => .expression
  | parameterNotFound _ | secretNotFound _ | keyNotFound .. => .notFound
  | noStringValue _ | invalidJson .. => .payloadShape
  | transport _ | timeout _ | cancelled => .transport

end ResolveError

end Splice
