import Splice.Event

/-! # Requests and answers

A service answers a request for a parameter or a secret with a value, with an error of its own, or
not at all.
-/

namespace Splice.Aws

/-- A request to a service. Parameters are always asked for in clear text. -/
inductive Request
  | getParameter (name : String) (withDecryption : Bool)
  | getSecretValue (id : String)
  deriving DecidableEq, Repr

namespace Request

def target : Request → String
  | getParameter .. => "AmazonSSM.GetParameter"
  | getSecretValue _ => "secretsmanager.GetSecretValue"

def body : Request → List (String × FieldValue)
  | getParameter name withDecryption =>
    [("Name", .text name), ("WithDecryption", .flag withDecryption)]
  | getSecretValue id => [("SecretId", .text id)]

/-- The errors that the service of a request declares. It may answer with others. -/
def declaredErrors : Request → List String
  | getParameter .. =>
    ["InternalServerError", "InvalidKeyId", "ParameterNotFound", "ParameterVersionNotFound"]
  | getSecretValue _ =>
    ["DecryptionFailure", "InternalServiceError", "InvalidParameterException",
      "InvalidRequestException", "ResourceNotFoundException"]

/-- The error by which the service says that it has no such value. -/
def absenceError : Request → String
  | getParameter .. => "ParameterNotFound"
  | getSecretValue _ => "ResourceNotFoundException"

end Request

/-- What comes back for a request that was sent. -/
inductive Answer
  | value (text : String)
  /-- An entry without a text. -/
  | empty
  /-- No entry at all. -/
  | absent
  /-- An error of the service, with its code as sent. -/
  | serviceError (code : String) (message : Option String)
  /-- No connection. -/
  | unreachable (cause : String)
  /-- A body that cannot be read. -/
  | malformed
  deriving DecidableEq, Repr

/-- What a service answers to a request, at each of its sendings. -/
abbrev Service := Request → Nat → Answer

/-- The type of an error, without the namespace before it and the address after it. -/
def errorType (code : String) : String :=
  let bare := code.toList.takeWhile (· != ':')
  match bare.dropWhile (· != '#') with
  | [] => String.ofList bare
  | _ :: name => String.ofList name

/-- A failure of a service that has an error of its own to say that there is no such value. -/
inductive Answer.IsFailure (absenceError : String) : Answer → Prop
  | error {code : String} {message : Option String} :
      errorType code ≠ absenceError → IsFailure absenceError (.serviceError code message)
  | unreachable {cause : String} : IsFailure absenceError (.unreachable cause)
  | malformed : IsFailure absenceError .malformed

end Splice.Aws
