import Splice.Proofs.Cancellation.History

/-! # Registries and their histories

`Tracks` ties the families of a history to the channels of a registry: the channel of a family has
its number, and a raised flag if the family is cancelled. Every move that a history allows can be
made, and keeps this up.
-/

namespace Splice.Cancellation

namespace Channel

@[simp] theorem flag_send (channel : Channel) (flag : Bool) : (channel.send flag).flag = flag := rfl

@[simp] theorem flag_join (channel : Channel) : channel.join.flag = channel.flag := rfl

@[simp] theorem flag_leave (channel : Channel) : channel.leave.flag = channel.flag := rfl

/-- Waiting ends at once exactly if the flag is raised, whatever was seen and whoever is left. -/
@[simp] theorem wait_beq_raised (channel : Channel) (seen : Nat) :
    (channel.wait seen == .raised) = channel.flag := by
  cases raised : channel.flag
  · simp only [wait, look, raised, Bool.and_false]
    cases channel.isClosed <;> rfl
  · simp [wait, look, raised]

end Channel

namespace Registry

/-- Of a receiver nothing counts for an answer but its channel. -/
theorem ask?_receiverCancelled (registry : Registry) (receiver : Nat) :
    registry.ask? (.receiverCancelled receiver) =
      (registry.receivers.map Receiver.channel)[receiver]?.bind fun channel =>
        registry.channels[channel]?.map Channel.flag := by
  rw [ask?, List.getElem?_map]
  cases registry.receivers[receiver]? <;> rfl

/-- A receiver is cancelled exactly if waiting for it ends at once. -/
theorem ask?_waitEnds (registry : Registry) (receiver : Nat) :
    registry.ask? (.waitEnds receiver) = registry.ask? (.receiverCancelled receiver) := by
  simp [ask?]

theorem channels_heed (registry : Registry) (question : Question) :
    (registry.heed question).channels = registry.channels := by
  cases question <;> rfl

theorem tokens_heed (registry : Registry) (question : Question) :
    (registry.heed question).tokens = registry.tokens := by
  cases question <;> rfl

/-- A receiver that is told about its channel keeps it. -/
theorem receivers_heed (registry : Registry) (question : Question) :
    (registry.heed question).receivers.map Receiver.channel =
      registry.receivers.map Receiver.channel := by
  cases question with
  | waitEnds receiver =>
    apply List.ext_getElem?
    intro number
    simp only [heed, List.getElem?_map, List.getElem?_modify]
    cases registry.receivers[number]? with
    | none => rfl
    | some waiting =>
      cases found : registry.channels[waiting.channel]? <;>
        simp [informed?, found, apply_ite]
  | _ => rfl

end Registry

/-! ## Tracking -/

/-- The registry after a history. -/
def History.replay? : History → Option Registry
  | [] => some {}
  | move :: earlier => (replay? earlier).bind (·.step? move)

/-- A registry is what a history made of it: the families are its channels, in the order in which
they were founded. -/
structure Tracks (history : History) (registry : Registry) : Prop where
  channels : registry.channels.length = history.families
  tokens : registry.tokens.map Token.channel = history.tokens
  receivers : registry.receivers.map Receiver.channel = history.receivers
  held {number : Nat} {token : Token} : registry.tokens[number]? = some token →
    (token.held = true ↔ .act (.dropToken number) ∉ history)
  flag {family : Nat} {channel : Channel} : registry.channels[family]? = some channel →
    (channel.flag = true ↔ history.Cancelled family)

namespace Tracks

variable {history : History} {registry : Registry}

private theorem nil : Tracks [] {} where
  channels := rfl
  tokens := rfl
  receivers := rfl
  held found := by contradiction
  flag found := by contradiction

theorem exists_channel (tracks : Tracks history registry) {family : Nat}
    (founded : family < history.families) :
    ∃ channel, registry.channels[family]? = some channel := by
  rw [← tracks.channels] at founded
  exact ⟨_, List.getElem?_eq_getElem founded⟩

private theorem getElem?_tokens (tracks : Tracks history registry) {number family : Nat}
    (found : history.tokens[number]? = some family) :
    ∃ held, registry.tokens[number]? = some ⟨family, held⟩ := by
  rw [← tracks.tokens, List.getElem?_map] at found
  obtain ⟨token, isToken, rfl⟩ := Option.map_eq_some_iff.mp found
  exact ⟨token.held, isToken⟩

private theorem getElem?_receivers (tracks : Tracks history registry) {number family : Nat}
    (found : history.receivers[number]? = some family) :
    ∃ seen, registry.receivers[number]? = some ⟨family, seen⟩ := by
  rw [← tracks.receivers, List.getElem?_map] at found
  obtain ⟨receiver, isReceiver, rfl⟩ := Option.map_eq_some_iff.mp found
  exact ⟨receiver.seen, isReceiver⟩

/-- The tokens that a history holds are the held ones, each with the channel of its family. -/
theorem heldToken? (tracks : Tracks history registry) {number : Nat}
    (holds : history.Holds number) :
    ∃ family, history.tokens[number]? = some family ∧
      registry.heldToken? number = some ⟨family, true⟩ := by
  have found := List.getElem?_eq_getElem holds.1
  obtain ⟨held, isToken⟩ := tracks.getElem?_tokens found
  obtain rfl : held = true := (tracks.held isToken).mpr holds.2
  exact ⟨_, found, Option.filter_eq_some_iff.mpr ⟨isToken, rfl⟩⟩

private theorem ask?_receiver (tracks : Tracks history registry) {receiver : Nat}
    (made : receiver < history.receivers.length) :
    ∃ family answer, history.receivers[receiver]? = some family ∧
      registry.ask? (.receiverCancelled receiver) = some answer ∧
      (answer = true ↔ history.Cancelled family) := by
  have found := List.getElem?_eq_getElem made
  obtain ⟨channel, isChannel⟩ := tracks.exists_channel
    (History.lt_families_of_mem_receivers (List.mem_of_getElem? found))
  refine ⟨_, channel.flag, found, ?_, tracks.flag isChannel⟩
  rw [Registry.ask?_receiverCancelled, tracks.receivers, found, Option.bind_some, isChannel]
  rfl

/-- A question about a handle that exists is answered by the flag of its family. -/
theorem ask? (tracks : Tracks history registry) {question : Question}
    (allowed : history.Allows (.ask question)) :
    ∃ family answer, history.family? question = some family ∧
      registry.ask? question = some answer ∧ (answer = true ↔ history.Cancelled family) := by
  cases question with
  | tokenCancelled token =>
    obtain ⟨family, found, isHeld⟩ := tracks.heldToken? allowed
    obtain ⟨channel, isChannel⟩ := tracks.exists_channel
      (History.lt_families_of_mem_tokens (List.mem_of_getElem? found))
    refine ⟨family, channel.flag, found, ?_, tracks.flag isChannel⟩
    simp [Registry.ask?, isHeld, isChannel]
  | receiverCancelled receiver => exact tracks.ask?_receiver allowed
  | waitEnds receiver =>
    rw [Registry.ask?_waitEnds]
    exact tracks.ask?_receiver allowed

/-- Only questions about handles that exist are answered. -/
theorem allows_of_ask? (tracks : Tracks history registry) {question : Question} {answer : Bool}
    (answered : registry.ask? question = some answer) : history.Allows (.ask question) := by
  have ofReceiver {receiver : Nat}
      (answered : registry.ask? (.receiverCancelled receiver) = some answer) :
      receiver < history.receivers.length := by
    rw [Registry.ask?_receiverCancelled, tracks.receivers] at answered
    obtain ⟨family, found, _⟩ := Option.bind_eq_some_iff.mp answered
    exact (List.getElem?_eq_some_iff.mp found).1
  cases question with
  | tokenCancelled token =>
    obtain ⟨asked, isHeld, _⟩ := Option.bind_eq_some_iff.mp answered
    obtain ⟨isToken, held⟩ := Option.filter_eq_some_iff.mp isHeld
    refine ⟨?_, (tracks.held isToken).mp held⟩
    rw [← tracks.tokens, List.length_map]
    exact (List.getElem?_eq_some_iff.mp isToken).1
  | receiverCancelled receiver => exact ofReceiver answered
  | waitEnds receiver =>
    rw [Registry.ask?_waitEnds] at answered
    exact ofReceiver answered

/-! ### Steps -/

private theorem getElem?_concat_cases {α : Type} {items : List α} {last item : α} {number : Nat}
    (found : (items ++ [last])[number]? = some item) :
    items[number]? = some item ∨ number = items.length ∧ item = last := by
  rcases Nat.lt_trichotomy number items.length with before | rfl | behind
  · exact .inl (by rwa [List.getElem?_append_left before] at found)
  · rw [List.getElem?_concat_length] at found
    exact .inr ⟨rfl, (Option.some.inj found).symm⟩
  · rw [List.getElem?_eq_none (by simp; omega)] at found
    contradiction

theorem cancelled_cons_of_ne {move : Move} (other : ∀ token, move ≠ .act (.cancel token))
    {family : Nat} : History.Cancelled (move :: history) family ↔ history.Cancelled family := by
  simp [History.cancelled_cons_iff, other]

private theorem held_concat (tracks : Tracks history registry) (legal : history.Legal)
    {family number : Nat}
    {token : Token} (found : (registry.tokens ++ [⟨family, true⟩])[number]? = some token) :
    token.held = true ↔ .act (.dropToken number) ∉ history := by
  rcases getElem?_concat_cases found with before | ⟨rfl, rfl⟩
  · exact tracks.held before
  · refine iff_of_true rfl fun dropped => ?_
    have made := legal.token_lt_of_dropped dropped
    rw [← tracks.tokens, List.length_map] at made
    exact Nat.lt_irrefl _ made

private theorem flag_concat (tracks : Tracks history registry) {owners family : Nat}
    {channel : Channel}
    (found : (registry.channels ++ [{ owners := owners }])[family]? = some channel) :
    channel.flag = true ↔ history.Cancelled family := by
  rcases getElem?_concat_cases found with before | ⟨rfl, rfl⟩
  · exact tracks.flag before
  · refine iff_of_false (by simp) fun cancelled => ?_
    have founded := History.lt_families_of_mem_tokens cancelled.mem_tokens
    rw [tracks.channels] at founded
    exact Nat.lt_irrefl _ founded

/-- Tokens come and go without a change of the flag. -/
private theorem flag_modify (tracks : Tracks history registry) {change : Channel → Channel}
    (keeps : ∀ channel, (change channel).flag = channel.flag) {number family : Nat}
    {channel : Channel} (found : (registry.channels.modify number change)[family]? = some channel) :
    channel.flag = true ↔ history.Cancelled family := by
  rw [List.getElem?_modify] at found
  obtain ⟨before, isChannel, rfl⟩ := Option.map_eq_some_iff.mp found
  rw [← tracks.flag isChannel]
  split
  · rw [keeps]
  · rfl

-- Each move adds to the history what it adds to the registry: a family for a channel, and the
-- family of a handle for the channel of a handle. Only a new token relies on the whole history,
-- since no earlier drop may carry its number.

private theorem newToken (tracks : Tracks history registry) (legal : history.Legal) :
    ∃ later, registry.act? .newToken = some later ∧ Tracks (.act .newToken :: history) later := by
  refine ⟨_, rfl, ?channels, ?tokens, tracks.receivers, ?held, ?flag⟩
  case channels => simp [History.families, tracks.channels]
  case tokens => simp [History.tokens, tracks.tokens, tracks.channels]
  case held =>
    intro number token found
    simpa using tracks.held_concat legal found
  case flag =>
    intro family channel found
    rw [cancelled_cons_of_ne (by simp)]
    exact tracks.flag_concat found

private theorem cloneToken (tracks : Tracks history registry) (legal : history.Legal) {token : Nat}
    (holds : history.Holds token) :
    ∃ later, registry.act? (.cloneToken token) = some later ∧
      Tracks (.act (.cloneToken token) :: history) later := by
  obtain ⟨family, found, isHeld⟩ := tracks.heldToken? holds
  refine ⟨_, congrArg (Option.map _) isHeld, ?channels, ?tokens, tracks.receivers, ?held, ?flag⟩
  case channels => simp [History.families, tracks.channels]
  case tokens => simp [History.tokens, tracks.tokens, found]
  case held =>
    intro number token found
    simpa using tracks.held_concat legal found
  case flag =>
    intro family channel found
    rw [cancelled_cons_of_ne (by simp)]
    exact tracks.flag_modify Channel.flag_join found

private theorem dropToken (tracks : Tracks history registry) {token : Nat}
    (holds : history.Holds token) :
    ∃ later, registry.act? (.dropToken token) = some later ∧
      Tracks (.act (.dropToken token) :: history) later := by
  obtain ⟨family, found, isHeld⟩ := tracks.heldToken? holds
  refine ⟨_, congrArg (Option.map _) isHeld, ?channels, ?tokens, tracks.receivers, ?held, ?flag⟩
  case channels => simp [History.families, tracks.channels]
  case tokens =>
    obtain ⟨inside, rfl⟩ := List.getElem?_eq_some_iff.mp found
    rw [List.map_set, tracks.tokens]
    exact List.set_getElem_self inside
  case held =>
    intro number other isToken
    rw [List.getElem?_set] at isToken
    split at isToken
    · next same =>
      split at isToken
      · cases isToken
        simp [same]
      · contradiction
    · next different =>
      rw [tracks.held isToken]
      simp [Ne.symm different]
  case flag =>
    intro family channel found
    rw [cancelled_cons_of_ne (by simp)]
    exact tracks.flag_modify Channel.flag_leave found

private theorem cancel (tracks : Tracks history registry) {token : Nat}
    (holds : history.Holds token) :
    ∃ later, registry.act? (.cancel token) = some later ∧
      Tracks (.act (.cancel token) :: history) later := by
  obtain ⟨family, found, isHeld⟩ := tracks.heldToken? holds
  refine ⟨_, congrArg (Option.map _) isHeld, ?channels, tracks.tokens, tracks.receivers, ?held,
    ?flag⟩
  case channels => simp [History.families, tracks.channels]
  case held =>
    intro number other found
    simpa using tracks.held found
  case flag =>
    intro other channel isChannel
    rw [List.getElem?_modify] at isChannel
    obtain ⟨before, wasChannel, rfl⟩ := Option.map_eq_some_iff.mp isChannel
    rw [History.cancelled_cons_iff, ← tracks.flag wasChannel]
    split
    · next same =>
      have cancelled := found.trans (congrArg some same)
      exact iff_of_true (Channel.flag_send before true) (.inr ⟨token, rfl, cancelled⟩)
    · next different =>
      rw [or_iff_left]
      rintro ⟨used, same, isFamily⟩
      cases same
      exact different (Option.some.inj (found.symm.trans isFamily))

private theorem newReceiver (tracks : Tracks history registry) {token : Nat}
    (holds : history.Holds token) :
    ∃ later, registry.act? (.newReceiver token) = some later ∧
      Tracks (.act (.newReceiver token) :: history) later := by
  obtain ⟨family, found, isHeld⟩ := tracks.heldToken? holds
  obtain ⟨channel, isChannel⟩ := tracks.exists_channel
    (History.lt_families_of_mem_tokens (List.mem_of_getElem? found))
  refine ⟨{ registry with receivers := registry.receivers ++ [⟨family, channel.version⟩] }, ?acted,
    tracks.channels, tracks.tokens, ?receivers, ?held, ?flag⟩
  case acted => simp [Registry.act?, Registry.informed?, isHeld, isChannel]
  case receivers => simp [History.receivers, tracks.receivers, found]
  case held =>
    intro number other found
    simpa using tracks.held found
  case flag =>
    intro other channel isChannel
    rw [cancelled_cons_of_ne (by simp)]
    exact tracks.flag isChannel

private theorem idleReceiver (tracks : Tracks history registry) :
    ∃ later, registry.act? .idleReceiver = some later ∧
      Tracks (.act .idleReceiver :: history) later := by
  refine ⟨_, rfl, ?channels, tracks.tokens, ?receivers, ?held, ?flag⟩
  case channels => simp [History.families, tracks.channels]
  case receivers => simp [History.receivers, tracks.receivers, tracks.channels]
  case held =>
    intro number token found
    simpa using tracks.held found
  case flag =>
    intro family channel found
    rw [cancelled_cons_of_ne (by simp)]
    exact tracks.flag_concat found

private theorem cloneReceiver (tracks : Tracks history registry) {receiver : Nat}
    (made : receiver < history.receivers.length) :
    ∃ later, registry.act? (.cloneReceiver receiver) = some later ∧
      Tracks (.act (.cloneReceiver receiver) :: history) later := by
  have found := List.getElem?_eq_getElem made
  obtain ⟨seen, isReceiver⟩ := tracks.getElem?_receivers found
  refine ⟨_, congrArg (Option.map _) isReceiver, tracks.channels, tracks.tokens, ?receivers, ?held,
    ?flag⟩
  case receivers => simp [History.receivers, tracks.receivers, found]
  case held =>
    intro number token found
    simpa using tracks.held found
  case flag =>
    intro family channel found
    rw [cancelled_cons_of_ne (by simp)]
    exact tracks.flag found

private theorem heed (tracks : Tracks history registry) (question : Question) :
    Tracks (.ask question :: history) (registry.heed question) := by
  refine ⟨?channels, ?tokens, ?receivers, ?held, ?flag⟩
  case channels =>
    rw [Registry.channels_heed]
    exact tracks.channels
  case tokens =>
    rw [Registry.tokens_heed]
    exact tracks.tokens
  case receivers =>
    rw [Registry.receivers_heed]
    exact tracks.receivers
  case held =>
    intro number token found
    rw [Registry.tokens_heed] at found
    simpa using tracks.held found
  case flag =>
    intro family channel found
    rw [Registry.channels_heed] at found
    rw [cancelled_cons_of_ne (by simp)]
    exact tracks.flag found

private theorem step (tracks : Tracks history registry) (legal : history.Legal) {move : Move}
    (allowed : history.Allows move) :
    ∃ later, registry.step? move = some later ∧ Tracks (move :: history) later := by
  cases move with
  | act action =>
    cases action with
    | newToken => exact tracks.newToken legal
    | cloneToken token => exact tracks.cloneToken legal allowed
    | dropToken token => exact tracks.dropToken allowed
    | cancel token => exact tracks.cancel allowed
    | newReceiver token => exact tracks.newReceiver allowed
    | idleReceiver => exact tracks.idleReceiver
    | cloneReceiver receiver => exact tracks.cloneReceiver allowed
  | ask question =>
    obtain ⟨_, answer, _, answered, _⟩ := tracks.ask? allowed
    exact ⟨_, congrArg (Option.map _) answered, tracks.heed question⟩

end Tracks

/-- Every legal history can be replayed. -/
theorem History.Legal.exists_tracks {history : History} (legal : history.Legal) :
    ∃ registry, history.replay? = some registry ∧ Tracks history registry := by
  induction history with
  | nil => exact ⟨{}, rfl, .nil⟩
  | cons move earlier ih =>
    obtain ⟨registry, replayed, tracks⟩ := ih legal.2
    obtain ⟨later, stepped, tracks⟩ := tracks.step legal.2 legal.1
    refine ⟨later, ?_, tracks⟩
    rw [History.replay?, replayed]
    exact stepped

end Splice.Cancellation
