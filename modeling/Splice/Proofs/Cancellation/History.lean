import Splice.Cancellation

/-! # Histories of tokens and receivers

A new token founds a family, which its clones and the receivers made from them belong to. Families
are read off a history alone: what a handle is asked has no part in them, and neither has what
became of the handles since.
-/

namespace Splice.Cancellation

/-- The moves made so far, the latest first. -/
abbrev History := List Move

namespace History

/-- The number of families founded so far. A receiver that observes nothing is a family of its
own. -/
def families : History → Nat
  | [] => 0
  | .act .newToken :: earlier | .act .idleReceiver :: earlier => families earlier + 1
  | _ :: earlier => families earlier

/-- The families of the tokens made so far, in the order in which they were made. -/
def tokens : History → List Nat
  | [] => []
  | .act .newToken :: earlier => tokens earlier ++ [families earlier]
  | .act (.cloneToken token) :: earlier => tokens earlier ++ (tokens earlier)[token]?.toList
  | _ :: earlier => tokens earlier

/-- The families of the receivers made so far, in the order in which they were made. -/
def receivers : History → List Nat
  | [] => []
  | .act (.newReceiver token) :: earlier => receivers earlier ++ (tokens earlier)[token]?.toList
  | .act .idleReceiver :: earlier => receivers earlier ++ [families earlier]
  | .act (.cloneReceiver receiver) :: earlier =>
    receivers earlier ++ (receivers earlier)[receiver]?.toList
  | _ :: earlier => receivers earlier

/-- Some token of a family was cancelled. -/
def Cancelled (history : History) (family : Nat) : Prop :=
  ∃ token earlier later, history = later ++ .act (.cancel token) :: earlier ∧
    (tokens earlier)[token]? = some family

/-- A token was made and not dropped. -/
def Holds (history : History) (token : Nat) : Prop :=
  token < history.tokens.length ∧ .act (.dropToken token) ∉ history

/-- The handle of a move exists. -/
def Allows (history : History) : Move → Prop
  | .act .newToken | .act .idleReceiver => True
  | .act (.cloneToken token) | .act (.dropToken token) | .act (.cancel token)
  | .act (.newReceiver token) | .ask (.tokenCancelled token) => history.Holds token
  | .act (.cloneReceiver receiver) | .ask (.receiverCancelled receiver)
  | .ask (.waitEnds receiver) => receiver < history.receivers.length

/-- Every move was made with a handle that existed. -/
def Legal : History → Prop
  | [] => True
  | move :: earlier => Allows earlier move ∧ Legal earlier

/-- The family of the handle that is asked. -/
def family? (history : History) : Question → Option Nat
  | .tokenCancelled token => history.tokens[token]?
  | .receiverCancelled receiver | .waitEnds receiver => history.receivers[receiver]?

variable {history : History}

instance (token : Nat) : Decidable (history.Holds token) :=
  inferInstanceAs (Decidable (_ ∧ _))

instance : (move : Move) → Decidable (history.Allows move)
  | .act .newToken | .act .idleReceiver => inferInstanceAs (Decidable True)
  | .act (.cloneToken token) | .act (.dropToken token) | .act (.cancel token)
  | .act (.newReceiver token) | .ask (.tokenCancelled token) =>
    inferInstanceAs (Decidable (history.Holds token))
  | .act (.cloneReceiver receiver) | .ask (.receiverCancelled receiver)
  | .ask (.waitEnds receiver) => inferInstanceAs (Decidable (receiver < history.receivers.length))

instance decidableLegal : (history : History) → Decidable history.Legal
  | [] => inferInstanceAs (Decidable True)
  | move :: earlier =>
    have := decidableLegal earlier
    inferInstanceAs (Decidable (Allows earlier move ∧ Legal earlier))

/-! ## Families -/

private theorem mem_of_mem_append_toList {families others : List Nat} {number family : Nat}
    (member : family ∈ families ++ others[number]?.toList) :
    family ∈ families ∨ family ∈ others := by
  rcases List.mem_append.mp member with before | now
  · exact .inl before
  · exact .inr (List.mem_of_getElem? (Option.mem_toList.mp now))

/-- Only a new token brings in a family, one that was not there before. -/
private theorem mem_tokens_cons {move : Move} {family : Nat}
    (member : family ∈ tokens (move :: history)) :
    family ∈ history.tokens ∨ move = .act .newToken ∧ family = history.families := by
  rcases move with action | question
  · cases action with
    | newToken => simpa [tokens] using member
    | cloneToken token => exact .inl ((mem_of_mem_append_toList member).elim id id)
    | _ => exact .inl member
  · exact .inl member

private theorem mem_receivers_cons {move : Move} {family : Nat}
    (member : family ∈ receivers (move :: history)) :
    family ∈ history.receivers ∨ family ∈ history.tokens ∨
      move = .act .idleReceiver ∧ family = history.families := by
  rcases move with action | question
  · cases action with
    | newReceiver token => exact (mem_of_mem_append_toList member).imp_right .inl
    | idleReceiver =>
      rcases List.mem_append.mp member with before | now
      · exact .inl before
      · exact .inr (.inr ⟨rfl, List.mem_singleton.mp now⟩)
    | cloneReceiver receiver => exact .inl ((mem_of_mem_append_toList member).elim id id)
    | _ => exact .inl member
  · exact .inl member

theorem families_le_cons (history : History) (move : Move) :
    history.families ≤ families (move :: history) := by
  rcases move with action | question
  · cases action <;> simp [families]
  · exact Nat.le_refl _

private theorem families_le_append (history later : History) :
    history.families ≤ families (later ++ history) := by
  induction later with
  | nil => exact Nat.le_refl _
  | cons move later ih => exact Nat.le_trans ih (families_le_cons _ move)

theorem lt_families_of_mem_tokens {family : Nat} (member : family ∈ history.tokens) :
    family < history.families := by
  induction history with
  | nil => contradiction
  | cons move earlier ih =>
    rcases mem_tokens_cons member with before | ⟨rfl, rfl⟩
    · exact Nat.lt_of_lt_of_le (ih before) (families_le_cons earlier move)
    · exact Nat.lt_succ_self _

theorem lt_families_of_mem_receivers {family : Nat} (member : family ∈ history.receivers) :
    family < history.families := by
  induction history with
  | nil => contradiction
  | cons move earlier ih =>
    rcases mem_receivers_cons member with before | source | ⟨rfl, rfl⟩
    · exact Nat.lt_of_lt_of_le (ih before) (families_le_cons earlier move)
    · exact Nat.lt_of_lt_of_le (lt_families_of_mem_tokens source) (families_le_cons earlier move)
    · exact Nat.lt_succ_self _

theorem tokens_prefix_cons (history : History) (move : Move) :
    history.tokens <+: tokens (move :: history) := by
  rcases move with action | question
  · cases action with
    | newToken => exact List.prefix_append _ _
    | cloneToken token => exact List.prefix_append _ _
    | _ => exact List.prefix_rfl
  · exact List.prefix_rfl

private theorem receivers_prefix_cons (history : History) (move : Move) :
    history.receivers <+: receivers (move :: history) := by
  rcases move with action | question
  · cases action with
    | newReceiver token => exact List.prefix_append _ _
    | idleReceiver => exact List.prefix_append _ _
    | cloneReceiver receiver => exact List.prefix_append _ _
    | _ => exact List.prefix_rfl
  · exact List.prefix_rfl

private theorem tokens_prefix_append (history later : History) :
    history.tokens <+: tokens (later ++ history) := by
  induction later with
  | nil => exact List.prefix_rfl
  | cons move later ih => exact ih.trans (tokens_prefix_cons _ move)

private theorem receivers_prefix_append (history later : History) :
    history.receivers <+: receivers (later ++ history) := by
  induction later with
  | nil => exact List.prefix_rfl
  | cons move later ih => exact ih.trans (receivers_prefix_cons _ move)

private theorem getElem?_of_prefix {families others : List Nat} {number family : Nat}
    (extended : families <+: others) (found : families[number]? = some family) :
    others[number]? = some family := by
  obtain ⟨inside, rfl⟩ := List.getElem?_eq_some_iff.mp found
  exact List.prefix_iff_getElem?.mp extended _ inside

/-- A handle stays in its family. -/
theorem family?_append {question : Question} {family : Nat}
    (found : history.family? question = some family) (later : History) :
    family? (later ++ history) question = some family := by
  have tokens := history.tokens_prefix_append later
  have receivers := history.receivers_prefix_append later
  cases question with
  | tokenCancelled token => exact getElem?_of_prefix tokens found
  | receiverCancelled receiver => exact getElem?_of_prefix receivers found
  | waitEnds receiver => exact getElem?_of_prefix receivers found

theorem Cancelled.append {family : Nat} (cancelled : history.Cancelled family) (later : History) :
    Cancelled (later ++ history) family := by
  obtain ⟨token, earlier, between, rfl, found⟩ := cancelled
  exact ⟨token, earlier, later ++ between, (List.append_assoc later between _).symm, found⟩

theorem Cancelled.mem_tokens {family : Nat} (cancelled : history.Cancelled family) :
    family ∈ history.tokens := by
  obtain ⟨token, earlier, later, rfl, found⟩ := cancelled
  have member := List.mem_of_getElem? found
  exact (tokens_prefix_append _ later).subset ((tokens_prefix_cons earlier _).subset member)

/-- A move that cancels no token of a family leaves the family as it is. -/
theorem cancelled_cons_iff {move : Move} {family : Nat} :
    Cancelled (move :: history) family ↔ history.Cancelled family ∨
      ∃ token, move = .act (.cancel token) ∧ history.tokens[token]? = some family := by
  constructor
  · rintro ⟨token, earlier, later, whole, found⟩
    cases later with
    | nil =>
      obtain ⟨rfl, rfl⟩ := List.cons.inj whole
      exact .inr ⟨token, rfl, found⟩
    | cons other later =>
      obtain ⟨rfl, rfl⟩ := List.cons.inj whole
      exact .inl ⟨token, earlier, later, rfl, found⟩
  · rintro (cancelled | ⟨token, rfl, found⟩)
    · exact cancelled.append [move]
    · exact ⟨token, history, [], rfl, found⟩

/-- A receiver that observes nothing is in no family of tokens. -/
theorem families_not_mem_tokens (later : History) :
    history.families ∉ tokens (later ++ .act .idleReceiver :: history) := by
  induction later with
  | nil =>
    intro member
    have founded : history.families < history.families := lt_families_of_mem_tokens member
    exact Nat.lt_irrefl _ founded
  | cons move later ih =>
    intro member
    rcases mem_tokens_cons member with before | ⟨-, same⟩
    · exact ih before
    · have founded : history.families < families (.act .idleReceiver :: history) :=
        Nat.lt_succ_self _
      have grows := families_le_append (.act .idleReceiver :: history) later
      exact Nat.ne_of_lt (Nat.lt_of_lt_of_le founded grows) same

/-- Only tokens that exist are dropped. -/
theorem Legal.token_lt_of_dropped (legal : history.Legal) {token : Nat}
    (dropped : .act (.dropToken token) ∈ history) : token < history.tokens.length := by
  induction history with
  | nil => contradiction
  | cons move earlier ih =>
    have grows := (tokens_prefix_cons earlier move).length_le
    rcases List.mem_cons.mp dropped with rfl | before
    · exact Nat.lt_of_lt_of_le legal.1.1 grows
    · exact Nat.lt_of_lt_of_le (ih legal.2 before) grows

theorem Legal.of_append {later : History} (legal : Legal (later ++ history)) : history.Legal := by
  induction later with
  | nil => exact legal
  | cons move later ih => exact ih legal.2

/-- Cancelling makes and drops no handle. -/
theorem allows_cancel_cons_iff {token : Nat} {question : Question} :
    Allows (.act (.cancel token) :: history) (.ask question) ↔ history.Allows (.ask question) := by
  cases question with
  | tokenCancelled asked => simp [Allows, Holds, tokens]
  | _ => rfl

end History

end Splice.Cancellation
