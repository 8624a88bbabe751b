/-! # Tokens and receivers

A run is cancelled through a token and notices it through a receiver. A token and its clones share
the sender of one channel, and every receiver made from one of them looks at the flag of this
channel. The channel is closed when the last of these tokens is dropped, and it keeps its flag.
-/

namespace Splice.Cancellation

/-- A channel with the flag that was sent last. It counts what was sent, so that a receiver can tell
whether it has seen the flag, and the tokens that share its sender. -/
structure Channel where
  flag : Bool := false
  version : Nat := 0
  owners : Nat
  deriving DecidableEq, Repr

/-- What waiting for a raised flag comes to if nothing happens any more. -/
inductive Waiting
  | raised
  | closed
  | pending
  deriving DecidableEq, Repr

namespace Channel

/-- Sends a flag, whether or not anybody receives it. -/
def send (channel : Channel) (flag : Bool) : Channel :=
  { channel with flag, version := channel.version + 1 }

def join (channel : Channel) : Channel :=
  { channel with owners := channel.owners + 1 }

def leave (channel : Channel) : Channel :=
  { channel with owners := channel.owners - 1 }

/-- Nobody can send any more. -/
def isClosed (channel : Channel) : Bool :=
  channel.owners == 0

/-- Whether a look at the flag finds it raised. At the end of a channel only a flag that was not
seen yet is looked at. -/
def look (channel : Channel) (ended : Bool) (seen : Nat) : Bool :=
  (!ended || seen != channel.version) && channel.flag

/-- Waits for a raised flag. The first look is at the flag as it is, seen before or not; there is a
second one when the channel turns out to be closed. -/
def wait (channel : Channel) (seen : Nat) : Waiting :=
  if channel.look false seen then .raised
  else if channel.isClosed then
    if channel.look true channel.version then .raised else .closed
  else .pending

end Channel

/-- A token: its channel, and whether somebody still holds it. -/
structure Token where
  channel : Nat
  held : Bool := true
  deriving DecidableEq, Repr

/-- A receiver: its channel, and the flag of it that it saw last. -/
structure Receiver where
  channel : Nat
  seen : Nat := 0
  deriving DecidableEq, Repr

/-- The channels and handles made so far. -/
structure Registry where
  channels : List Channel := []
  tokens : List Token := []
  receivers : List Receiver := []
  deriving DecidableEq, Repr

/-- What can be done with handles. Handles are numbered in the order in which they were made. -/
inductive Action
  | newToken
  | cloneToken (token : Nat)
  | dropToken (token : Nat)
  | cancel (token : Nat)
  | newReceiver (token : Nat)
  /-- Makes a receiver whose channel is closed from the beginning. -/
  | idleReceiver
  | cloneReceiver (receiver : Nat)
  deriving DecidableEq, Repr

/-- What handles can be asked. -/
inductive Question
  /-- Whether the token's channel has a raised flag. -/
  | tokenCancelled (token : Nat)
  /-- Whether the receiver's channel has a raised flag. -/
  | receiverCancelled (receiver : Nat)
  /-- Whether waiting for cancellation ends at once. -/
  | waitEnds (receiver : Nat)
  deriving DecidableEq, Repr

/-- Something that is done or asked. -/
inductive Move
  | act (action : Action)
  | ask (question : Question)
  deriving DecidableEq, Repr

namespace Registry

def heldToken? (registry : Registry) (token : Nat) : Option Token :=
  registry.tokens[token]?.filter (·.held)

def informed? (registry : Registry) (channel : Nat) : Option Receiver :=
  registry.channels[channel]?.map fun observed => ⟨channel, observed.version⟩

def act? (registry : Registry) : Action → Option Registry
  | .newToken =>
    some { registry with
      channels := registry.channels ++ [{ owners := 1 }]
      tokens := registry.tokens ++ [{ channel := registry.channels.length }] }
  | .cloneToken token =>
    (registry.heldToken? token).map fun original =>
      { registry with
        channels := registry.channels.modify original.channel Channel.join
        tokens := registry.tokens ++ [original] }
  | .dropToken token =>
    (registry.heldToken? token).map fun dropped =>
      { registry with
        channels := registry.channels.modify dropped.channel Channel.leave
        tokens := registry.tokens.set token { dropped with held := false } }
  | .cancel token =>
    (registry.heldToken? token).map fun used =>
      { registry with channels := registry.channels.modify used.channel (·.send true) }
  | .newReceiver token =>
    (registry.heldToken? token).bind fun source =>
      (registry.informed? source.channel).map fun made =>
        { registry with receivers := registry.receivers ++ [made] }
  | .idleReceiver =>
    some { registry with
      channels := registry.channels ++ [{ owners := 0 }]
      receivers := registry.receivers ++ [{ channel := registry.channels.length }] }
  | .cloneReceiver receiver =>
    registry.receivers[receiver]?.map fun original =>
      { registry with receivers := registry.receivers ++ [original] }

def ask? (registry : Registry) : Question → Option Bool
  | .tokenCancelled token =>
    (registry.heldToken? token).bind fun asked =>
      registry.channels[asked.channel]?.map Channel.flag
  | .receiverCancelled receiver =>
    registry.receivers[receiver]?.bind fun asked =>
      registry.channels[asked.channel]?.map Channel.flag
  | .waitEnds receiver =>
    registry.receivers[receiver]?.bind fun waiting =>
      registry.channels[waiting.channel]?.map fun observed => observed.wait waiting.seen == .raised

/-- The registry after a question. A receiver that waited has seen the flag of its channel. -/
def heed (registry : Registry) : Question → Registry
  | .waitEnds receiver =>
    { registry with
      receivers := registry.receivers.modify receiver fun waiting =>
        (registry.informed? waiting.channel).getD waiting }
  | .tokenCancelled _ | .receiverCancelled _ => registry

def step? (registry : Registry) : Move → Option Registry
  | .act action => registry.act? action
  | .ask question => (registry.ask? question).map fun _ => registry.heed question

end Registry

end Splice.Cancellation
