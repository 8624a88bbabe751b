import Splice.Aws.Service
import Splice.Text.Quoted

/-! # The SDK

The SDK looks for a region and for credentials, sends the requests and shows what failed. Nothing
here says how: each of its parts is data, and the structures `Client.Sends`, `Client.Shows` and
`Sdk.LoadsRegion` state what its documentation promises of them.
-/

namespace Splice.Aws

/-- What came of a request: how often it was sent, and the answer that counts. -/
structure Delivery where
  sendings : Nat
  answer : Answer

/-- The part of the SDK that carries requests. It delivers a request, given the answer to each of
its sendings, and has a text for every failure. -/
structure Client where
  deliver : Request → (Nat → Answer) → Delivery
  failureText : Request → Answer → String

namespace Client

/-- How often requests are sent, where some failures are transient. -/
structure Sends (client : Client) (transient : Request → Answer → Prop) : Prop where
  /-- The last sending counts. -/
  last : ∀ request answers, ∃ resent, client.deliver request answers =
    { sendings := resent + 1, answer := answers resent }
  /-- A request is sent again only after a transient failure. -/
  again : ∀ request answers i, i + 1 < (client.deliver request answers).sendings →
    transient request (answers i)
  /-- What the service does have, or says that it does not have, is no transient failure. -/
  failure : ∀ request answer, transient request answer → answer.IsFailure request.absenceError

/-- How failures are shown, where every failure has a chain of causes with a text each. -/
structure Shows (client : Client) (causes : Request → Answer → List String) : Prop where
  /-- The text of a failure shows the whole chain. -/
  chain : ∀ request answer, ∀ cause ∈ causes request answer,
    cause.toList <:+: (client.failureText request answer).toList
  connection : ∀ request cause, cause ∈ causes request (.unreachable cause)
  /-- A declared error reads as its type and its message. -/
  declared : ∀ request code message, errorType code ∈ request.declaredErrors →
    errorType code ++ ": " ++ message ∈ causes request (.serviceError code (some message))
  /-- Another error has a record behind it, in which texts are quoted. -/
  undeclared : ∀ request code message, errorType code ∉ request.declaredErrors →
    ∃ rest, "Error \x7b code: " ++ Text.quote (errorType code) ++ ", message: " ++
      Text.quote message ++ rest ∈ causes request (.serviceError code (some message))

end Client

/-- What the SDK is asked to use in the place of what it finds. -/
structure Overrides where
  profile : Option String := none
  region : Option String := none
  deriving DecidableEq, Repr

/-- Where the rest is looked for: the environment's variables and the shared profile files. -/
structure Surroundings where
  vars : List (String × String) := []
  config : String := ""
  credentials : String := ""
  deriving DecidableEq, Repr

def Surroundings.valueOf? (surroundings : Surroundings) (name : String) : Option String :=
  surroundings.vars.lookup name

/-- Two surroundings that may differ in the variables that hold a region. -/
structure Surroundings.AgreesApartFromRegion (surroundings other : Surroundings) : Prop where
  vars : ∀ name, name ≠ "AWS_REGION" → name ≠ "AWS_DEFAULT_REGION" →
    other.valueOf? name = surroundings.valueOf? name
  config : other.config = surroundings.config
  credentials : other.credentials = surroundings.credentials

/-- What the SDK has loaded. If there is a provider of credentials, it brings some or says why it
cannot. -/
structure Config where
  region : Option String
  credentials : Option (Except String Unit)
  client : Client

structure Sdk where
  load : Overrides → Surroundings → Config

/-- Where a region comes from, with the metadata service off. Profiles may have regions in the
shared files, of which the first is the config file. -/
structure Sdk.LoadsRegion (sdk : Sdk) (profileRegion? : String → String → String → Option String) :
    Prop where
  /-- An override counts most, then two variables, then the profile in use. -/
  chain : ∀ overrides surroundings,
    (sdk.load overrides surroundings).region =
      (overrides.region
        <|> surroundings.valueOf? "AWS_REGION"
        <|> surroundings.valueOf? "AWS_DEFAULT_REGION"
        <|> profileRegion? surroundings.config surroundings.credentials
          ((overrides.profile <|> surroundings.valueOf? "AWS_PROFILE").getD "default"))
  /-- The variables for the region matter for nothing else. -/
  rest : ∀ overrides surroundings other, surroundings.AgreesApartFromRegion other →
    (sdk.load overrides other).region = (sdk.load overrides surroundings).region →
    sdk.load overrides other = sdk.load overrides surroundings

end Splice.Aws
