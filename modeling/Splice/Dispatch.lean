import Splice.PathTemplate.Parser
import Splice.Timeline

/-! # Dispatching a placeholder

The inner text of a placeholder decides which provider is called, if any. Its path is evaluated
first; a path without a value costs no call.
-/

namespace Splice

/-- What becomes of a placeholder. -/
inductive Outcome
  /-- The provider gave a value. -/
  | resolved (value : String)
  /-- The path has no value, or the call failed. -/
  | failed (error : ResolveError)
  /-- The placeholder belongs to no provider. -/
  | unsupported
  deriving DecidableEq, Repr

def Outcome.ofResult : CallResult → Outcome
  | .ok value => resolved value
  | .error error => failed error

namespace Circumstances

/-- Evaluates the path of a reference and fetches the value it names. -/
def resolve? (circumstances : Circumstances) (context : Context) (reference : Reference)
    (t : Timeline) : Option (Step CallResult) :=
  match PathTemplate.evaluate reference.path context with
  | .error error => some ⟨.error (.expression error), [], [], t⟩
  | .ok target => circumstances.call? (reference.call target) t

/-- Resolves the inner text of a placeholder, if it starts with a provider's tag. -/
def dispatch? (circumstances : Circumstances) (context : Context) (inner : String)
    (t : Timeline) : Option (Step Outcome) :=
  match Reference.parse? inner with
  | none => some ⟨.unsupported, [], [], t⟩
  | some reference =>
    (circumstances.resolve? context reference t).map fun step =>
      { value := .ofResult step.value
        calls := step.calls
        events := .dispatching reference.provider :: step.events
        after := step.after }

end Circumstances

end Splice
