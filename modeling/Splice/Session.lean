import Splice.Render
import Splice.Store

/-! # Sessions

A session is a sequence of steps over one gateway, one timeline and one token. Its gateway answers
from stores, with failures, delays and calls that hang laid down beforehand for some keys.
-/

namespace Splice

/-- What a gateway answers, how late, and for which keys it fails or hangs. -/
structure World where
  stores : Stores := {}
  failures : List (String × ResolveError) := []
  delays : List (String × Nat) := []
  hanging : List String := []
  cancelOnCall : Option Nat := none

namespace World

/-- The gateway of a world. -/
def gateway (world : World) : Gateway := fun call =>
  { result :=
      match world.failures.lookup call.key with
      | some error => .error error
      | none => world.stores.answer call
    latency :=
      if world.hanging.contains call.key then .never
      else .after ((world.delays.lookup call.key).getD 0) }

def circumstances (world : World) (deadline : Option Nat) (heedful : Bool) : Circumstances :=
  { gateway := world.gateway
    deadline := deadline
    heedful := heedful
    cancelOnCall := world.cancelOnCall }

end World

namespace Session

/-- What a step of a session does. -/
inductive Action
  /-- Renders without a deadline and without heeding cancellation. -/
  | process (document : String)
  /-- Renders with the deadline, without heeding cancellation. -/
  | render (document : String)
  /-- Renders with the deadline, heeding cancellation. -/
  | renderHeedful (document : String)
  /-- Dispatches the inner text of a placeholder. -/
  | dispatch (inner : String)
  /-- Fetches the value of a reference. -/
  | resolve (reference : Reference)
  /-- Sets the deadline of the calls to come. -/
  | setDeadline (milliseconds : Option Nat)
  /-- Cancels through the token. -/
  | cancel
  /-- Replaces the token by a new one. -/
  | renewToken
  /-- Gives the token up. -/
  | dropToken

/-- A step of a session, with the context it runs in and the time after its start at which the
token is cancelled. -/
structure Move where
  action : Action
  context : Context
  cancelAfter : Option Nat := none

/-- What a step shows. -/
inductive Answer
  | output (text : String)
  | outcome (outcome : Outcome)
  | result (result : CallResult)
  | cancelled (cancelled : Bool)
  | nothing

/-- The state of a session between steps. -/
structure State where
  timeline : Timeline := {}
  deadline : Option Nat := none

def quietly (state : State) (timeline : Timeline) (answer : Answer) : Step Answer × State :=
  (⟨answer, [], [], timeline⟩, { state with timeline := timeline })

def close {α : Type} (state : State) (answer : α → Answer) (step : Step α) :
    Step Answer × State :=
  (⟨answer step.value, step.calls, step.events, step.after⟩,
    { state with timeline := step.after })

def act? (world : World) (context : Context) (state : State) :
    Action → Option (Step Answer × State)
  | .process document =>
    ((world.circumstances none false).render? context document state.timeline).map
      (close state .output)
  | .render document =>
    ((world.circumstances state.deadline false).render? context document state.timeline).map
      (close state .output)
  | .renderHeedful document =>
    ((world.circumstances state.deadline true).render? context document state.timeline).map
      (close state .output)
  | .dispatch inner =>
    ((world.circumstances state.deadline true).dispatch? context inner state.timeline).map
      (close state .outcome)
  | .resolve reference =>
    ((world.circumstances state.deadline true).resolve? context reference state.timeline).map
      (close state .result)
  | .setDeadline milliseconds =>
    some (quietly { state with deadline := milliseconds } state.timeline .nothing)
  | .cancel =>
    let timeline := state.timeline.cancel
    some (quietly state timeline (.cancelled timeline.cancelled))
  | .renewToken =>
    let timeline := { state.timeline with held := true, cancelled := false }
    some (quietly state timeline (.cancelled false))
  | .dropToken =>
    let timeline := { state.timeline with held := false }
    some (quietly state timeline (.cancelled timeline.cancelled))

def State.schedule (state : State) : Option Nat → State
  | none => state
  | some delay =>
    { state with
      timeline := { state.timeline with
        alarms := state.timeline.alarms ++ [state.timeline.now + delay] } }

def step? (world : World) (state : State) (move : Move) : Option (Step Answer × State) :=
  act? world move.context (state.schedule move.cancelAfter) move.action

def run? (world : World) : State → List Move → Option (List (Step Answer))
  | _, [] => some []
  | state, move :: rest => do
    let (step, state) ← step? world state move
    let steps ← run? world state rest
    return step :: steps

end Session

end Splice
