import Splice.Proofs.Render.Course

/-! # Where braces open in an output

An output is put together from literal text, values, markers and placeholders that were left as they
are. If neither the literal text nor what was filled in holds an opening brace, two of them stand in
a row only where a marker or such a placeholder starts, and never across a seam. The main statement
is `exists_opening`.
-/

namespace Splice

/-- What became of a placeholder holds no opening brace: neither the value that was fetched nor the
message of the failure. -/
def Outcome.Unbraced : Outcome → Prop
  | resolved value => '{' ∉ value.toList
  | failed error => '{' ∉ error.message.toList
  | unsupported => True

instance (outcome : Outcome) : Decidable outcome.Unbraced :=
  match outcome with
  | .resolved value => inferInstanceAs (Decidable ('{' ∉ value.toList))
  | .failed error => inferInstanceAs (Decidable ('{' ∉ error.message.toList))
  | .unsupported => inferInstanceAs (Decidable True)

namespace Filled

/-- A piece of an output that brings no opening braces but those of a marker or of a placeholder. -/
def Unbraced : Filled → Prop
  | literal text => '{' ∉ text
  | placeholder inner outcome => Document.IsInner inner ∧ outcome.Unbraced

/-- A stretch of text in which braces open at its start at most. -/
def OpensAtStart (stretch : List Char) : Prop :=
  '{' ∉ stretch ∨ ∃ body, stretch = '{' :: '{' :: body ∧ body ≠ [] ∧ '{' ∉ body

theorem toList_text_failed (inner : List Char) (error : ResolveError) :
    (placeholder inner (.failed error)).text.toList =
      '{' :: '{' :: ("ERROR:".toList ++ error.message.toList ++ ['}', '}']) := by
  simp [text, Marker.ofMessage, Marker.opening]

theorem toList_text_unsupported (inner : List Char) :
    (placeholder inner .unsupported).text.toList = '{' :: '{' :: (inner ++ ['}', '}']) := by
  simp [text, Piece.text]

private theorem Unbraced.opensAtStart {piece : Filled} (unbraced : piece.Unbraced) :
    OpensAtStart piece.text.toList := by
  match piece with
  | .literal text =>
    have unopened : '{' ∉ text := unbraced
    exact .inl (by rwa [Filled.text, String.toList_ofList])
  | .placeholder inner (.resolved value) => exact .inl unbraced.2
  | .placeholder inner (.failed error) =>
    refine .inr ⟨_, toList_text_failed inner error, by simp, ?_⟩
    have message : '{' ∉ error.message.toList := unbraced.2
    simp [message]
  | .placeholder inner .unsupported =>
    refine .inr ⟨_, toList_text_unsupported inner, by simp, ?_⟩
    intro member
    rcases List.mem_append.mp member with member | member
    · exact (unbraced.1.2 '{' member).1 rfl
    · simp at member

private theorem OpensAtStart.append {stretch rest front tail : List Char}
    (opens : OpensAtStart stretch)
    (occurs : stretch ++ rest = front ++ '{' :: '{' :: tail) :
    (front = [] ∧ ∃ body, stretch = '{' :: '{' :: body ∧ tail = body ++ rest) ∨
      ∃ gap, front = stretch ++ gap ∧ rest = gap ++ '{' :: '{' :: tail := by
  rcases List.append_eq_append_iff.mp occurs with ⟨gap, before, behind⟩ | ⟨inside, whole, behind⟩
  · exact .inr ⟨gap, before, behind⟩
  · cases inside with
    | nil => exact .inr ⟨[], by simpa using whole.symm, by simpa using behind.symm⟩
    | cons c inside =>
      obtain ⟨rfl, second⟩ := List.cons.inj behind
      rcases opens with unopened | ⟨body, rfl, filled, unopened⟩
      · exact absurd (whole ▸ by simp) unopened
      · -- Only the first of the two braces at the start has another one behind it.
        match front with
        | [] =>
          simp only [List.nil_append, List.cons.injEq, true_and] at whole
          subst whole
          exact .inl ⟨rfl, body, rfl, (List.cons.inj second).2⟩
        | [_] =>
          simp only [List.cons_append, List.nil_append, List.cons.injEq, true_and] at whole
          obtain ⟨_, rfl⟩ := whole
          obtain ⟨d, body, rfl⟩ := List.exists_cons_of_ne_nil filled
          obtain rfl : '{' = d := (List.cons.inj second).1
          exact absurd (List.mem_cons_self ..) unopened
        | _ :: _ :: front =>
          simp only [List.cons_append, List.cons.injEq] at whole
          exact absurd (whole.2.2 ▸ by simp) unopened

/-- Where two braces open in a row in an output, a marker or a placeholder that was left as it is
starts. -/
theorem exists_opening {filled : List Filled} {front tail : List Char}
    (unbraced : ∀ piece ∈ filled, piece.Unbraced)
    (occurs : (output filled).toList = front ++ '{' :: '{' :: tail) :
    ∃ before piece after body, filled = before ++ piece :: after ∧
      front = (output before).toList ∧ piece.text.toList = '{' :: '{' :: body ∧
      tail = body ++ (output after).toList := by
  induction filled generalizing front with
  | nil => simp [output] at occurs
  | cons piece rest ih =>
    obtain ⟨first, others⟩ := List.forall_mem_cons.mp unbraced
    rw [output_cons, String.toList_append] at occurs
    rcases first.opensAtStart.append occurs with ⟨rfl, body, starts, behind⟩ | ⟨gap, rfl, behind⟩
    · exact ⟨[], piece, rest, body, rfl, by simp [output], starts, behind⟩
    · obtain ⟨before, other, after, body, rfl, rfl, starts, last⟩ := ih others behind
      exact ⟨piece :: before, other, after, body, rfl,
        by rw [output_cons, String.toList_append], starts, last⟩

/-- What holds of the literal text and of the placeholders with what became of them holds of the
pieces of an output. -/
theorem forall_mem_ofOutcomes {Holds : Filled → Prop} {offset : Nat} {pieces : List Piece}
    {visits : List Visit}
    (visited : visits.map Visit.placeholder = Document.placeholdersFrom offset pieces)
    (literal : ∀ text, .literal text ∈ pieces → Holds (.literal text))
    (placeholder : ∀ inner, .placeholder inner ∈ pieces → ∀ visit ∈ visits,
      visit.placeholder.inner = String.ofList inner → Holds (.placeholder inner visit.step.value)) :
    ∀ piece ∈ ofOutcomes pieces (visits.map (·.step.value)), Holds piece := by
  induction pieces generalizing offset visits with
  | nil => simp [ofOutcomes]
  | cons piece rest ih =>
    cases piece with
    | literal text =>
      refine List.forall_mem_cons.mpr ⟨literal text (List.mem_cons_self ..), ih visited ?_ ?_⟩
      · intro text member
        exact literal text (List.mem_cons_of_mem _ member)
      · intro inner member
        exact placeholder inner (List.mem_cons_of_mem _ member)
    | placeholder inner =>
      obtain ⟨visit, others, rfl, atStart, visited⟩ := List.map_eq_cons_iff.mp visited
      refine List.forall_mem_cons.mpr ⟨?_, ih visited ?_ ?_⟩
      · exact placeholder inner (List.mem_cons_self ..) visit (List.mem_cons_self ..)
          (congrArg Document.Placeholder.inner atStart)
      · intro text member
        exact literal text (List.mem_cons_of_mem _ member)
      · intro other member visit visiting
        exact placeholder other (List.mem_cons_of_mem _ member) visit
          (List.mem_cons_of_mem _ visiting)

end Filled

end Splice
