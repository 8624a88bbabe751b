import Splice.Aws.Profile
import Splice.Aws.Sdk

/-! # A library in the place of the SDK

A small library that finds access keys in the variables and in the profile in use. Its client sends
a request again after a transient failure, a limited number of times, and shows a failure by the
texts of its chain, one after the other.
-/

namespace Splice.Aws.Library

/-- The text of a record that holds the type and the message of an error. -/
def recordText (type : String) (message : Option String) : String :=
  let shown := match message with
    | none => ""
    | some message => ", message: " ++ Text.quote message
  "Error \x7b code: " ++ Text.quote type ++ shown ++ " \x7d"

def causes (request : Request) : Answer → List String
  | .serviceError code message =>
    let type := errorType code
    if request.declaredErrors.contains type then
      match message with
      | none => [type]
      | some message => [type ++ ": " ++ message]
    else ["unhandled error (" ++ type ++ ")", recordText type message]
  | .unreachable cause => ["unhandled error", "dispatch failure", cause]
  | .malformed => ["unhandled error", "response error"]
  | _ => []

/-- The types of the errors after which a request may have more luck. -/
def transientErrors : List String :=
  ["InternalServerError", "InternalServiceError", "RequestTimeoutException", "ThrottlingException",
    "TooManyRequestsException"]

def isTransient (answer : Answer) : Bool :=
  match answer with
  | .serviceError code _ => transientErrors.contains (errorType code)
  | .unreachable _ | .malformed => true
  | _ => false

/-- How often a request is sent again, at most `limit` times. -/
def resendings : Nat → (Nat → Answer) → Nat
  | 0, _ => 0
  | limit + 1, answers =>
    if isTransient (answers 0) then resendings limit (fun i => answers (i + 1)) + 1 else 0

def client (limit : Nat) : Client where
  deliver _ answers :=
    let resent := resendings limit answers
    { sendings := resent + 1, answer := answers resent }
  failureText request answer := ": ".intercalate (causes request answer)

/-- The region of a profile, or of the profile it draws on, through at most `fuel` profiles. -/
def region? (profiles : Profiles) : Nat → String → Option String
  | 0, _ => none
  | fuel + 1, profile =>
    match profiles.property? profile "region" with
    | some region => some region
    | none => (profiles.property? profile "source_profile").bind (region? profiles fuel)

/-- The region that the shared files have for a profile. -/
def profileRegion? (config credentials profile : String) : Option String :=
  let profiles := readProfiles config credentials
  region? profiles (profiles.length + 1) profile

def profileInUse (overrides : Overrides) (surroundings : Surroundings) : String :=
  (overrides.profile <|> surroundings.valueOf? "AWS_PROFILE").getD "default"

def filledValue? (surroundings : Surroundings) (name : String) : Option String :=
  (surroundings.valueOf? name).filter fun value => !value.toList.all Text.isBlank

def hasKeyVariables (surroundings : Surroundings) : Bool :=
  (filledValue? surroundings "AWS_ACCESS_KEY_ID").isSome &&
    (if (surroundings.valueOf? "AWS_SECRET_ACCESS_KEY").isSome then
      (filledValue? surroundings "AWS_SECRET_ACCESS_KEY").isSome
    else (filledValue? surroundings "SECRET_ACCESS_KEY").isSome)

/-- The properties by which a profile asks another service for credentials. -/
def foreignProperties : List String :=
  ["role_arn", "credential_source", "credential_process", "login_session", "sso_session",
    "sso_account_id", "sso_role_name", "sso_region", "sso_start_url"]

def hasKey (profiles : Profiles) (profile : String) : Bool :=
  (profiles.property? profile "aws_access_key_id").isSome &&
    (profiles.property? profile "aws_secret_access_key").isSome &&
    foreignProperties.all fun key => (profiles.property? profile key).isNone

def hasCredentials (overrides : Overrides) (surroundings : Surroundings) : Bool :=
  hasKeyVariables surroundings ||
    hasKey (readProfiles surroundings.config surroundings.credentials)
      (profileInUse overrides surroundings)

/-- The library, which sends a request again at most `limit` times. -/
def sdk (limit : Nat) : Sdk where
  load overrides surroundings :=
    { region :=
        overrides.region
          <|> surroundings.valueOf? "AWS_REGION"
          <|> surroundings.valueOf? "AWS_DEFAULT_REGION"
          <|> profileRegion? surroundings.config surroundings.credentials
            (profileInUse overrides surroundings)
      credentials :=
        if hasCredentials overrides surroundings then some (.ok ())
        else some (.error "no access key in the environment or the profile")
      client := client limit }

end Splice.Aws.Library
