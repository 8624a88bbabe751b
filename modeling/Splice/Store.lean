import Splice.Gateway
import Splice.Secret

/-! # Stores in memory

Parameters are texts, and secrets are texts or binary data that no text is known of. Storing under
a key again replaces what was there.
-/

namespace Splice

/-- The contents of both stores. A secret without a text holds binary data only. -/
structure Stores where
  parameters : List (String × String) := []
  secrets : List (String × Option String) := []
  deriving DecidableEq, Repr

namespace Stores

def putParameter (stores : Stores) (name value : String) : Stores :=
  { stores with parameters := (name, value) :: stores.parameters }

def putSecret (stores : Stores) (id : String) (payload : Option String) : Stores :=
  { stores with secrets := (id, payload) :: stores.secrets }

def parameter (stores : Stores) (name : String) : CallResult :=
  match stores.parameters.lookup name with
  | some value => .ok value
  | none => .error (.parameterNotFound name)

def secret (stores : Stores) (id : String) (field : Option String) : CallResult :=
  match stores.secrets.lookup id with
  | some payload => Secret.select id payload field
  | none => .error (.secretNotFound id)

@[simp] theorem secret_putSecret (stores : Stores) (id : String) (payload field : Option String) :
    (stores.putSecret id payload).secret id field = Secret.select id payload field := by
  simp [secret, putSecret]

/-- What the stores answer to a call. -/
def answer (stores : Stores) : Call → CallResult
  | .parameter name => stores.parameter name
  | .secret id field => stores.secret id field

/-- The gateway that answers from the stores at once. -/
def gateway (stores : Stores) : Gateway :=
  fun call => { result := stores.answer call }

end Stores

end Splice
