import Splice.Aws.Sdk

/-! # Making the providers ready

Before anything is fetched, the SDK must have found a region and credentials. The region comes
first: without one, credentials do not matter.
-/

namespace Splice.Aws

/-- What the caller lays down, over everything else. -/
structure Settings where
  region : Option String := none
  profile : Option String := none
  deriving DecidableEq, Repr

/-- What the SDK is asked for: its own defaults, but for what the caller lays down. -/
def Settings.overrides (settings : Settings) : Overrides :=
  { profile := settings.profile, region := settings.region }

/-- Why nothing can be fetched. -/
inductive StartupError
  | missingRegion
  | missingCredentials
  | credentials (detail : String)
  deriving DecidableEq, Repr

def StartupError.message : StartupError → String
  | missingRegion =>
    "no AWS region configured (set AWS_REGION, a profile region, or --region)"
  | missingCredentials => "no AWS credentials provider configured"
  | credentials detail => "failed to load AWS credentials: " ++ detail

/-- Finds a region and credentials, or says what is missing. The log tells of success alone. -/
def start (sdk : Sdk) (settings : Settings) (surroundings : Surroundings) :
    Except StartupError (Config × List Event) :=
  let config := sdk.load settings.overrides surroundings
  match config.region with
  | none => .error .missingRegion
  | some region =>
    match config.credentials with
    | none => .error .missingCredentials
    | some (.error detail) => .error (.credentials detail)
    | some (.ok ()) => .ok (config, [.providersReady region settings.profile])

end Splice.Aws
