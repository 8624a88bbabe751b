import Splice.Reference
import Splice.ResolveError
import Splice.Text.Quoted

/-! # The log

What a run tells about itself is a sequence of events. Values that were resolved are no part of
any event.
-/

namespace Splice

/-- How important an event is. -/
inductive Level
  | debug
  | warn
  deriving DecidableEq, Repr

def Level.label : Level → String
  | debug => "DEBUG"
  | warn => "WARN"

/-- Something that happened during a run. Offsets are bytes of the document. -/
inductive Event
  /-- A placeholder of a provider is about to be resolved. -/
  | dispatching (provider : Provider)
  /-- The placeholder at an offset was resolved. -/
  | resolved (offset : Nat)
  /-- The placeholder at an offset failed. -/
  | failed (offset : Nat) (error : ResolveError)
  /-- A document with placeholders was rendered. -/
  | rendered (resolved failed skipped : Nat)
  /-- The output made from a source holds error markers. -/
  | unresolved (source : String)
  /-- A parameter is requested from the service. -/
  | fetchingParameter (name : String)
  /-- A secret is requested from the service. -/
  | fetchingSecret (id : String) (hasField : Bool)
  /-- The providers are ready for use. -/
  | providersReady (region : String) (profile : Option String)
  /-- The user interrupts the run. -/
  | interrupted
  deriving DecidableEq, Repr

/-- The value of a field of an event. -/
inductive FieldValue
  | text (value : String)
  | number (value : Nat)
  | flag (value : Bool)
  deriving DecidableEq, Repr

namespace Event

def level : Event → Level
  | failed .. | unresolved _ | interrupted => .warn
  | _ => .debug

def message : Event → String
  | dispatching _ => "Dispatching placeholder"
  | resolved _ => "Resolved placeholder"
  | failed .. => "Failed to resolve placeholder"
  | rendered .. => "Rendered document"
  | unresolved _ => "Output contains unresolved placeholders"
  | fetchingParameter _ => "Fetching SSM parameter"
  | fetchingSecret .. => "Fetching secret"
  | providersReady .. => "AWS providers initialized"
  | interrupted => "Interrupted, cancelling pending lookups"

def fields : Event → List (String × FieldValue)
  | dispatching provider => [("provider", .text provider.name)]
  | resolved offset => [("offset", .number offset)]
  | failed offset error =>
    [("offset", .number offset), ("kind", .text error.kind.label), ("error", .text error.message)]
  | rendered good bad left =>
    [("resolved", .number good), ("failed", .number bad), ("skipped", .number left)]
  | unresolved source => [("source", .text source)]
  | fetchingParameter name => [("name", .text name)]
  | fetchingSecret id hasField => [("id", .text id), ("has_field", .flag hasField)]
  | providersReady region profile =>
    [("region", .text region), ("profile", .text (Text.quoteOption profile))]
  | interrupted => []

end Event

/-- The least level that is shown when nothing else is asked for. -/
def Level.least (verbose : Bool) : Level :=
  if verbose then .debug else .warn

def Level.filterName : Level → String
  | debug => "debug"
  | warn => "warn"

end Splice
