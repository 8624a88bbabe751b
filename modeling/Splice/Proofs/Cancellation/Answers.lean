import Splice.Proofs.Cancellation.Tracking

/-! # The answers of tokens and receivers

The main statement, `answers_exact`, says for every history of handles that a handle is cancelled
exactly if some token of its family was cancelled before. Questions leave registries behind that are
`Alike`: they differ in what the receivers have seen, which counts for no answer.
-/

namespace Splice.Cancellation

/-! ## What questions leave behind -/

/-- Registries that differ at most in what their receivers have seen. -/
structure Alike (registry other : Registry) : Prop where
  channels : registry.channels = other.channels
  tokens : registry.tokens = other.tokens
  receivers : registry.receivers.map Receiver.channel = other.receivers.map Receiver.channel

namespace Alike

variable {registry other last : Registry}

private theorem symm (alike : Alike registry other) : Alike other registry :=
  ⟨alike.channels.symm, alike.tokens.symm, alike.receivers.symm⟩

private theorem trans (alike : Alike registry other) (next : Alike other last) :
    Alike registry last :=
  ⟨alike.channels.trans next.channels, alike.tokens.trans next.tokens,
    alike.receivers.trans next.receivers⟩

private theorem heed (registry : Registry) (question : Question) :
    Alike (registry.heed question) registry :=
  ⟨registry.channels_heed question, registry.tokens_heed question,
    registry.receivers_heed question⟩

private theorem ask? (alike : Alike registry other) (question : Question) :
    registry.ask? question = other.ask? question := by
  have ofReceiver (receiver : Nat) :
      registry.ask? (.receiverCancelled receiver) = other.ask? (.receiverCancelled receiver) := by
    rw [Registry.ask?_receiverCancelled, Registry.ask?_receiverCancelled, alike.receivers,
      alike.channels]
  cases question with
  | tokenCancelled token =>
    simp only [Registry.ask?, Registry.heldToken?, alike.channels, alike.tokens]
  | receiverCancelled receiver => exact ofReceiver receiver
  | waitEnds receiver =>
    rw [Registry.ask?_waitEnds, Registry.ask?_waitEnds]
    exact ofReceiver receiver

private theorem act? (alike : Alike registry other) {action : Action} {later : Registry}
    (acted : registry.act? action = some later) :
    ∃ otherLater, other.act? action = some otherLater ∧ Alike later otherLater := by
  obtain ⟨channels, tokens, receivers⟩ := registry
  obtain ⟨_, _, otherReceivers⟩ := other
  obtain ⟨rfl, rfl, same⟩ := alike
  dsimp only at same
  cases action with
  | newToken =>
    cases acted
    exact ⟨_, rfl, rfl, rfl, same⟩
  | cloneToken token =>
    obtain ⟨original, isHeld, rfl⟩ := Option.map_eq_some_iff.mp acted
    exact ⟨_, Option.map_eq_some_iff.mpr ⟨original, isHeld, rfl⟩, rfl, rfl, same⟩
  | dropToken token =>
    obtain ⟨dropped, isHeld, rfl⟩ := Option.map_eq_some_iff.mp acted
    exact ⟨_, Option.map_eq_some_iff.mpr ⟨dropped, isHeld, rfl⟩, rfl, rfl, same⟩
  | cancel token =>
    obtain ⟨used, isHeld, rfl⟩ := Option.map_eq_some_iff.mp acted
    exact ⟨_, Option.map_eq_some_iff.mpr ⟨used, isHeld, rfl⟩, rfl, rfl, same⟩
  | newReceiver token =>
    obtain ⟨source, isHeld, informed⟩ := Option.bind_eq_some_iff.mp acted
    obtain ⟨made, isMade, rfl⟩ := Option.map_eq_some_iff.mp informed
    refine ⟨_, Option.bind_eq_some_iff.mpr
      ⟨source, isHeld, Option.map_eq_some_iff.mpr ⟨made, isMade, rfl⟩⟩, rfl, rfl, ?_⟩
    rw [List.map_append, List.map_append, same]
  | idleReceiver =>
    cases acted
    refine ⟨_, rfl, rfl, rfl, ?_⟩
    rw [List.map_append, List.map_append, same]
  | cloneReceiver receiver =>
    obtain ⟨original, found, rfl⟩ := Option.map_eq_some_iff.mp acted
    have otherFound := congrArg (·[receiver]?) same
    simp only [List.getElem?_map, found, Option.map_some] at otherFound
    obtain ⟨otherOriginal, isReceiver, channel⟩ := Option.map_eq_some_iff.mp otherFound.symm
    refine ⟨_, Option.map_eq_some_iff.mpr ⟨otherOriginal, isReceiver, rfl⟩, rfl, rfl, ?_⟩
    simp [same, channel]

private theorem step? (alike : Alike registry other) {move : Move} {later : Registry}
    (stepped : registry.step? move = some later) :
    ∃ otherLater, other.step? move = some otherLater ∧ Alike later otherLater := by
  cases move with
  | act action => exact alike.act? stepped
  | ask question =>
    obtain ⟨answer, answered, rfl⟩ := Option.map_eq_some_iff.mp stepped
    rw [alike.ask?] at answered
    refine ⟨_, congrArg (Option.map _) answered, ?_⟩
    exact (heed registry question).trans (alike.trans (heed other question).symm)

private theorem replay? {history otherHistory : History}
    (replayed : history.replay? = some registry)
    (otherReplayed : otherHistory.replay? = some other) (alike : Alike registry other)
    (next : History) {later : Registry} (ended : History.replay? (next ++ history) = some later) :
    ∃ otherLater, History.replay? (next ++ otherHistory) = some otherLater ∧
      Alike later otherLater := by
  induction next generalizing later with
  | nil =>
    cases replayed.symm.trans ended
    exact ⟨other, otherReplayed, alike⟩
  | cons move next ih =>
    obtain ⟨between, first, stepped⟩ := Option.bind_eq_some_iff.mp ended
    obtain ⟨otherBetween, otherFirst, alike⟩ := ih first
    obtain ⟨otherLater, otherStepped, alike⟩ := alike.step? stepped
    exact ⟨otherLater, Option.bind_eq_some_iff.mpr ⟨otherBetween, otherFirst, otherStepped⟩, alike⟩

end Alike

/-! ## Answers -/

namespace History

/-- The answer to a question after a history. -/
def answer? (history : History) (question : Question) : Option Bool :=
  history.replay?.bind (·.ask? question)

variable {history : History}

private theorem Legal.exists_answer (legal : history.Legal) {question : Question}
    (allowed : history.Allows (.ask question)) :
    ∃ family answer, history.family? question = some family ∧
      history.answer? question = some answer ∧ (answer = true ↔ history.Cancelled family) := by
  obtain ⟨registry, replayed, tracks⟩ := legal.exists_tracks
  obtain ⟨family, answer, found, answered, flagged⟩ := tracks.ask? allowed
  refine ⟨family, answer, found, ?_, flagged⟩
  rw [answer?, replayed]
  exact answered

private theorem Legal.answer?_eq_some_iff (legal : history.Legal) {question : Question}
    {answer : Bool} :
    history.answer? question = some answer ↔ history.Allows (.ask question) ∧
      ∃ family, history.family? question = some family ∧
        (answer = true ↔ history.Cancelled family) := by
  have given (allowed : history.Allows (.ask question)) := legal.exists_answer allowed
  constructor
  · intro answered
    obtain ⟨registry, replayed, tracks⟩ := legal.exists_tracks
    have asked := answered
    rw [answer?, replayed] at asked
    have allowed := tracks.allows_of_ask? asked
    obtain ⟨family, same, found, other, flagged⟩ := given allowed
    cases other.symm.trans answered
    exact ⟨allowed, family, found, flagged⟩
  · rintro ⟨allowed, family, found, flagged⟩
    obtain ⟨other, same, isFamily, answered, otherFlagged⟩ := given allowed
    cases found.symm.trans isFamily
    rw [answered, Bool.eq_iff_iff.mpr (otherFlagged.trans flagged.symm)]

private theorem Legal.answer?_forget {later earlier : History} {asked : Question}
    (legal : Legal (later ++ .ask asked :: earlier)) (question : Question) :
    answer? (later ++ .ask asked :: earlier) question = answer? (later ++ earlier) question := by
  -- The registries before and after the question are alike, and stay so in what follows.
  obtain ⟨last, ended, _⟩ := legal.exists_tracks
  obtain ⟨registry, replayed, _⟩ := legal.of_append.2.exists_tracks
  obtain ⟨heeded, reached, _⟩ := legal.of_append.exists_tracks
  have alike : Alike heeded registry := by
    rw [replay?, replayed] at reached
    obtain ⟨answer, _, rfl⟩ := Option.map_eq_some_iff.mp reached
    exact .heed registry asked
  obtain ⟨otherLast, otherEnded, alike⟩ := alike.replay? reached replayed later ended
  rw [answer?, answer?, ended, otherEnded]
  exact alike.ask? question

private theorem answer?_waitEnds (history : History) (receiver : Nat) :
    history.answer? (.waitEnds receiver) = history.answer? (.receiverCancelled receiver) := by
  simp only [answer?, Registry.ask?_waitEnds]

/-- Every question about a handle that exists is answered, by whether some token of its family was
cancelled before. Waiting ends at once exactly if the receiver is cancelled. A receiver that
observes nothing, and every clone of it, is never cancelled. What is cancelled stays cancelled.
Questions change no answer, and neither does cancelling a token of another family. -/
theorem answers_exact (legal : history.Legal) :
    (∀ question, history.Allows (.ask question) → ∃ family answer,
      history.family? question = some family ∧ history.answer? question = some answer ∧
      (answer = true ↔ history.Cancelled family)) ∧
    (∀ receiver, history.answer? (.waitEnds receiver) =
      history.answer? (.receiverCancelled receiver)) ∧
    (∀ (later earlier : History) receiver, history = later ++ .act .idleReceiver :: earlier →
      history.receivers[receiver]? = some earlier.families →
      history.answer? (.receiverCancelled receiver) = some false) ∧
    (∀ later question, Legal (later ++ history) → Allows (later ++ history) (.ask question) →
      history.answer? question = some true → answer? (later ++ history) question = some true) ∧
    (∀ later asked earlier question, history = later ++ .ask asked :: earlier →
      history.answer? question = answer? (later ++ earlier) question) ∧
    (∀ token question, history.Allows (.act (.cancel token)) →
      history.family? question ≠ history.tokens[token]? →
      answer? (.act (.cancel token) :: history) question = history.answer? question) := by
  refine ⟨fun _ => legal.exists_answer, history.answer?_waitEnds, ?_, ?_, ?_, ?_⟩
  · rintro later earlier receiver rfl found
    apply legal.answer?_eq_some_iff.mpr
    refine ⟨(List.getElem?_eq_some_iff.mp found).1, _, found, ?_⟩
    refine iff_of_false Bool.false_ne_true fun cancelled => ?_
    exact families_not_mem_tokens later cancelled.mem_tokens
  · intro later question grown allowed answered
    obtain ⟨_, family, found, flagged⟩ := legal.answer?_eq_some_iff.mp answered
    have cancelled := (flagged.mp rfl).append later
    exact grown.answer?_eq_some_iff.mpr
      ⟨allowed, family, family?_append found later, iff_of_true rfl cancelled⟩
  · rintro later asked earlier question rfl
    exact legal.answer?_forget question
  · intro token question cancels different
    have grown : Legal (.act (.cancel token) :: history) := ⟨cancels, legal⟩
    apply Option.ext
    intro answer
    rw [grown.answer?_eq_some_iff, legal.answer?_eq_some_iff, allows_cancel_cons_iff]
    have sameFamily : family? (.act (.cancel token) :: history) question =
        history.family? question := by cases question <;> rfl
    rw [sameFamily]
    refine and_congr_right fun _ => exists_congr fun family => and_congr_right fun found => ?_
    have others : ¬ ∃ used, Move.act (.cancel token) = .act (.cancel used) ∧
        history.tokens[used]? = some family := by
      rintro ⟨used, same, isFamily⟩
      cases same
      exact different (found.trans isFamily.symm)
    rw [cancelled_cons_iff, or_iff_left others]

/-- A family that is cancelled by a clone of a dropped token, among two that are not. -/
theorem answers_exact_clone :
    let earlier : History := [.act (.newReceiver 0), .act .newToken]
    let later : History := [.act (.dropToken 1), .ask (.waitEnds 0), .act (.cancel 1),
      .act (.dropToken 0), .act .newToken, .act (.cloneToken 0)]
    let history : History := later ++ .act .idleReceiver :: earlier
    history.Legal ∧ history.family? (.waitEnds 0) = some 0 ∧ history.Cancelled 0 ∧
      history.answer? (.waitEnds 0) = some true ∧
      history.answer? (.receiverCancelled 1) = some false ∧
      history.answer? (.tokenCancelled 2) = some false := by
  intro earlier later history
  have legal : history.Legal := by decide
  obtain ⟨answers, _, idle, _⟩ := answers_exact legal
  obtain ⟨family, answer, found, answered, flagged⟩ := answers (.waitEnds 0) (by decide)
  have first : history.family? (.waitEnds 0) = some 0 := by decide
  have raised : history.answer? (.waitEnds 0) = some true := by decide
  cases first.symm.trans found
  cases raised.symm.trans answered
  exact ⟨legal, first, flagged.mp rfl, raised, idle later earlier 1 rfl rfl, by decide⟩

end History

end Splice.Cancellation
