import Splice.Gateway

/-! # Calls in time

Time is virtual: it moves only while a call waits. A call ends when its answer comes, when its
deadline passes or when the run is cancelled, whichever is first. An answer that comes exactly at
the deadline is in time. A run is cancelled through a token; once the token is gone nobody can
cancel any more, and what was cancelled stays so.
-/

namespace Splice

/-- The state of a run in time: the instant, how many calls were started, whether somebody holds
the token, whether it was cancelled, and the instants at which it is going to be. -/
structure Timeline where
  now : Nat := 0
  started : Nat := 0
  held : Bool := true
  cancelled : Bool := false
  alarms : List Nat := []
  deriving DecidableEq, Repr

namespace Timeline

/-- Cancels through the token, if somebody holds it. -/
def cancel (t : Timeline) : Timeline :=
  { t with cancelled := t.cancelled || t.held }

/-- Lets time pass up to an instant. The alarms up to it go off. -/
def advance (t : Timeline) (instant : Nat) : Timeline :=
  { t with
    now := instant
    cancelled := t.cancelled || (t.held && t.alarms.any (· ≤ instant))
    alarms := t.alarms.filter (instant < ·) }

def begin (t : Timeline) (cancelOnCall : Option Nat) : Timeline :=
  let started := { t with started := t.started + 1 }
  if cancelOnCall = some started.started then started.cancel else started

@[simp] theorem begin_now (t : Timeline) (cancelOnCall : Option Nat) :
    (t.begin cancelOnCall).now = t.now := by
  simp only [begin]
  split <;> rfl

@[simp] theorem begin_started (t : Timeline) (cancelOnCall : Option Nat) :
    (t.begin cancelOnCall).started = t.started + 1 := by
  simp only [begin]
  split <;> rfl

/-- The instant from which on a waiting call is cancelled, if there is one. -/
def interruption? (t : Timeline) : Option Nat :=
  if t.cancelled then some t.now
  else if t.held then t.alarms.min?.map (max t.now)
  else none

end Timeline

/-- A part of a run: its value, the calls made, the events logged, and the state after it. -/
structure Step (α : Type) where
  value : α
  calls : List Call := []
  events : List Event := []
  after : Timeline

/-- The circumstances of a run: who answers, the deadline of each call in milliseconds, whether
the run heeds cancellation, and which call cancels it. -/
structure Circumstances where
  gateway : Gateway
  deadline : Option Nat := none
  heedful : Bool := false
  cancelOnCall : Option Nat := none

namespace Circumstances

/-- The largest deadline that a failure reports. -/
def greatestReport : Nat := Nat.pow 2 64 - 1

/-- How long a call takes when nobody cancels it, and what it comes to; nothing if it hangs. -/
def undisturbed? (circumstances : Circumstances) (call : Call) : Option (Nat × CallResult) :=
  let response := circumstances.gateway call
  match response.latency, circumstances.deadline with
  | .after delay, none => some (delay, response.result)
  | .after delay, some limit =>
    if delay ≤ limit then some (delay, response.result)
    else some (limit, .error (.timeout (min limit greatestReport)))
  | .never, some limit => some (limit, .error (.timeout (min limit greatestReport)))
  | .never, none => none

/-- How a call that has been started ends. A call that needs no waiting ends before anything else
can happen. -/
def await? (circumstances : Circumstances) (call : Call) (t : Timeline) :
    Option (CallResult × Timeline) :=
  let interruption := if circumstances.heedful then t.interruption? else none
  match circumstances.undisturbed? call, interruption with
  | none, none => none
  | none, some instant => some (.error .cancelled, t.advance instant)
  | some (0, result), _ => some (result, t)
  | some (wait, result), none => some (result, t.advance (t.now + wait))
  | some (wait, result), some instant =>
    if t.now + wait < instant then some (result, t.advance (t.now + wait))
    else some (.error .cancelled, t.advance instant)

/-- Makes a call, unless the run was cancelled before. The result is nothing if the call never
ends. -/
def call? (circumstances : Circumstances) (call : Call) (t : Timeline) :
    Option (Step CallResult) :=
  if circumstances.heedful && t.cancelled then some ⟨.error .cancelled, [], [], t⟩
  else
    (circumstances.await? call (t.begin circumstances.cancelOnCall)).map fun (result, after) =>
      ⟨result, [call], (circumstances.gateway call).events, after⟩

end Circumstances

end Splice
