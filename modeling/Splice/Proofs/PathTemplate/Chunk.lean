import Mathlib.Data.List.Chain
import Splice.PathTemplate.Parser

/-! # Stretches of a path expression

A path expression falls into literal text and actions. The main statement, `split_eq_iff`, says
which sequences of stretches a path expression without an open end is split into: those that give it
back when they are written one after the other, and in which no stretch could have been cut
otherwise.
-/

namespace Splice.Chunk

/-- A stretch as it stands in the path expression. -/
def written : Chunk → List Char
  | .text literal => literal
  | .action body => ['{', '{'] ++ body ++ ['}', '}']
  | .unclosed => ['{', '{']

/-- A stretch that a path expression can be split into, if it has no open end: text that opens no
action, or a body that closes no earlier than its action. -/
def IsWhole : Chunk → Prop
  | .text literal => literal ≠ [] ∧ ¬ ['{', '{'] <:+: literal
  | .action body => ¬ ['}', '}'] <:+: body ++ ['}']
  | .unclosed => False

/-- Whether a stretch can stand before another one. Text goes on up to the next action, and does not
lend it a brace. -/
def MayPrecede : Chunk → Chunk → Prop
  | .text _, .text _ => False
  | .text literal, .action _ => literal.getLast? ≠ some '{'
  | _, _ => True

theorem split_none_cons {c : Char} {rest : List Char} (literal : ¬ ['{', '{'] <+: c :: rest) :
    split none (c :: rest) = consText c (split none rest) := by
  rw [split]
  rintro after rfl rfl
  exact literal (List.prefix_append ['{', '{'] after)

private theorem split_some_cons {c : Char} {rest : List Char} (inside : ¬ ['}', '}'] <+: c :: rest)
    (body : List Char) : split (some body) (c :: rest) = split (some (c :: body)) rest := by
  rw [split]
  rintro after rfl rfl
  exact inside (List.prefix_append ['}', '}'] after)

theorem closing_prefix_iff (c : Char) (tail rest : List Char) :
    ['}', '}'] <+: c :: (tail ++ ['}', '}'] ++ rest) ↔ ['}', '}'] <+: c :: (tail ++ ['}']) := by
  cases tail <;> simp [List.cons_prefix_cons]

private theorem split_some_append {tail : List Char} (whole : ¬ ['}', '}'] <:+: tail ++ ['}'])
    (body rest : List Char) :
    split (some body) (tail ++ ['}', '}'] ++ rest) =
      .action (body.reverse ++ tail) :: split none rest := by
  induction tail generalizing body with
  | nil => simp [split]
  | cons c tail ih =>
    rw [List.cons_append, List.infix_cons_iff, not_or] at whole
    have inside := mt (closing_prefix_iff c tail rest).mp whole.1
    rw [List.cons_append, List.cons_append, split_some_cons inside, ih whole.2]
    simp

private theorem split_some (body source : List Char) :
    split (some body) source = [.unclosed] ∨ ∃ tail rest,
      source = tail ++ ['}', '}'] ++ rest ∧ (¬ ['}', '}'] <:+: tail ++ ['}']) ∧
        split (some body) source = .action (body.reverse ++ tail) :: split none rest := by
  induction source generalizing body with
  | nil => exact .inl rfl
  | cons c source ih =>
    by_cases closing : ['}', '}'] <+: c :: source
    · obtain ⟨rest, same⟩ := closing
      refine .inr ⟨[], rest, same.symm, by decide, ?_⟩
      rw [← same]
      simp [split]
    · rw [split_some_cons closing]
      rcases ih (c :: body) with unclosed | ⟨tail, rest, rfl, whole, closed⟩
      · exact .inl unclosed
      · refine .inr ⟨c :: tail, rest, rfl, ?_, by rw [closed]; simp⟩
        rw [List.cons_append, List.infix_cons_iff, not_or]
        exact ⟨mt (closing_prefix_iff c tail rest).mpr closing, whole⟩

/-- No action opens at the head of a text that opens none, if what follows does not add a brace. -/
theorem not_opening {c : Char} {literal rest : List Char} (whole : ¬ ['{', '{'] <+: c :: literal)
    (seam : (c :: literal).getLast? = some '{' → ¬ ['{'] <+: rest) :
    ¬ ['{', '{'] <+: c :: (literal ++ rest) := by
  intro opening
  cases literal with
  | nil =>
    simp only [List.nil_append, List.cons_prefix_cons] at opening
    exact seam (by simp [← opening.1]) opening.2
  | cons d literal => exact whole (by simpa [List.cons_prefix_cons] using opening)

private theorem split_text_append {literal rest : List Char} (filled : literal ≠ [])
    (whole : ¬ ['{', '{'] <:+: literal)
    (seam : literal.getLast? = some '{' → ¬ ['{'] <+: rest)
    (apart : ∀ other chunks, split none rest ≠ .text other :: chunks) :
    split none (literal ++ rest) = .text literal :: split none rest := by
  induction literal with
  | nil => contradiction
  | cons c literal ih =>
    rw [List.infix_cons_iff, not_or] at whole
    rw [List.cons_append, split_none_cons (not_opening whole.1 seam)]
    cases literal with
    | nil =>
      rw [List.nil_append]
      unfold consText
      split
      · next other chunks same => exact absurd same (apart other chunks)
      · rfl
    | cons d literal => rw [ih (by simp) whole.2 (by simpa using seam), consText]

/-- What follows a text adds no brace to it. -/
theorem not_opening_of_chain {literal : List Char} {chunks : List Chunk}
    (whole : ∀ chunk ∈ chunks, chunk.IsWhole)
    (chain : (.text literal :: chunks).IsChain MayPrecede) :
    literal.getLast? = some '{' → ¬ ['{'] <+: chunks.flatMap written := by
  intro last opening
  have seam := (List.isChain_cons.mp chain).1
  match chunks, opening with
  | .text _ :: _, _ => exact seam _ rfl
  | .action _ :: _, _ => exact seam _ rfl last
  | .unclosed :: _, _ => exact whole _ (List.mem_cons_self ..)

private theorem split_flatMap_written {chunks : List Chunk}
    (whole : ∀ chunk ∈ chunks, chunk.IsWhole)
    (chain : chunks.IsChain MayPrecede) : split none (chunks.flatMap written) = chunks := by
  induction chunks with
  | nil => rfl
  | cons chunk chunks ih =>
    obtain ⟨headWhole, tailWhole⟩ := List.forall_mem_cons.mp whole
    obtain ⟨seam, tailChain⟩ := List.isChain_cons.mp chain
    have tail := ih tailWhole tailChain
    cases chunk with
    | text literal =>
      have apart : ∀ other rest, split none (chunks.flatMap written) ≠ .text other :: rest := by
        intro other rest same
        rw [tail] at same
        subst same
        exact seam _ rfl
      have cut := split_text_append headWhole.1 headWhole.2
        (not_opening_of_chain tailWhole chain) apart
      rwa [tail] at cut
    | action body =>
      have cut := split_some_append headWhole [] (chunks.flatMap written)
      rw [tail] at cut
      simpa [written, split] using cut
    | unclosed => exact headWhole.elim

theorem unclosed_mem_consText_iff (c : Char) (chunks : List Chunk) :
    .unclosed ∈ consText c chunks ↔ .unclosed ∈ chunks := by
  unfold consText
  split <;> simp

private theorem flatMap_written_consText (c : Char) (chunks : List Chunk) :
    (consText c chunks).flatMap written = c :: chunks.flatMap written := by
  unfold consText
  split <;> simp [written]

private theorem whole_consText {c : Char} {chunks : List Chunk}
    (literal : ¬ ['{', '{'] <+: c :: chunks.flatMap written)
    (whole : ∀ chunk ∈ chunks, chunk.IsWhole) (chain : chunks.IsChain MayPrecede) :
    (∀ chunk ∈ consText c chunks, chunk.IsWhole) ∧ (consText c chunks).IsChain MayPrecede := by
  match chunks with
  | [] => simp [consText, IsWhole, List.infix_cons_iff]
  | .unclosed :: chunks => exact (whole _ (List.mem_cons_self ..)).elim
  | .action body :: chunks =>
    refine ⟨List.forall_mem_cons.mpr ⟨?_, whole⟩, List.isChain_cons_cons.mpr ⟨?_, chain⟩⟩
    · simp [IsWhole, List.infix_cons_iff]
    · intro last
      obtain rfl : c = '{' := by simpa using last
      exact literal (List.prefix_append ['{', '{'] _)
  | .text other :: chunks =>
    obtain ⟨otherWhole, tailWhole⟩ := List.forall_mem_cons.mp whole
    obtain ⟨d, other, rfl⟩ := List.exists_cons_of_ne_nil otherWhole.1
    refine ⟨List.forall_mem_cons.mpr ⟨⟨by simp, ?_⟩, tailWhole⟩, ?_⟩
    · rw [List.infix_cons_iff, not_or]
      refine ⟨?_, otherWhole.2⟩
      intro opening
      apply literal
      exact opening.trans (List.prefix_append (c :: d :: other) (chunks.flatMap written))
    · rw [consText, List.isChain_cons]
      obtain ⟨seam, tailChain⟩ := List.isChain_cons.mp chain
      refine ⟨?_, tailChain⟩
      intro next isNext
      have before := seam next isNext
      cases next with
      | text => exact before
      | action body => simpa [MayPrecede] using before
      | unclosed => trivial

/-- An action that closes is one stretch, and the rest is split alone. -/
theorem split_action_append {body : List Char} (whole : ¬ ['}', '}'] <:+: body ++ ['}'])
    (rest : List Char) :
    split none ('{' :: '{' :: (body ++ ['}', '}'] ++ rest)) = .action body :: split none rest := by
  rw [split, split_some_append whole]
  rfl

/-- Induction along the stretches of a path expression: it is empty, its first action never closes,
or it goes on behind an action or behind a character of text. -/
@[elab_as_elim]
theorem split_induction {Holds : List Char → Prop} (nil : Holds [])
    (unclosed : ∀ rest, split (some []) rest = [.unclosed] → Holds ('{' :: '{' :: rest))
    (action : ∀ body rest, ¬ ['}', '}'] <:+: body ++ ['}'] → Holds rest →
      Holds ('{' :: '{' :: (body ++ ['}', '}'] ++ rest)))
    (text : ∀ c rest, ¬ ['{', '{'] <+: c :: rest → Holds rest → Holds (c :: rest))
    (source : List Char) : Holds source := by
  match source with
  | [] => exact nil
  | c :: source =>
    have ih (rest : List Char) (shorter : rest.length < (c :: source).length) : Holds rest :=
      split_induction nil unclosed action text rest
    by_cases opening : ['{', '{'] <+: c :: source
    · obtain ⟨rest, same⟩ := opening
      obtain ⟨rfl, rfl⟩ : '{' = c ∧ '{' :: rest = source := by simpa using same
      rcases split_some [] rest with never | ⟨body, after, rfl, whole, _⟩
      · exact unclosed rest never
      · apply action body after whole
        apply ih
        simp only [List.length_cons, List.length_append]
        omega
    · exact text c source opening (ih source (Nat.lt_succ_self _))
termination_by source.length
decreasing_by exact shorter

private theorem split_whole (source : List Char) (closed : .unclosed ∉ split none source) :
    (∀ chunk ∈ split none source, chunk.IsWhole) ∧ (split none source).IsChain MayPrecede ∧
      (split none source).flatMap written = source := by
  induction source using split_induction with
  | nil => exact ⟨by simp [split], by simp [split], rfl⟩
  | unclosed rest never =>
    rw [split, never] at closed
    exact absurd (List.mem_singleton_self _) closed
  | action body rest whole ih =>
    rw [split_action_append whole] at closed ⊢
    have tailClosed : .unclosed ∉ split none rest := by
      intro member
      exact closed (List.mem_cons_of_mem _ member)
    obtain ⟨tailWhole, tailChain, nothingLost⟩ := ih tailClosed
    refine ⟨List.forall_mem_cons.mpr ⟨whole, tailWhole⟩, ?_, ?_⟩
    · exact List.isChain_cons.mpr ⟨fun _ _ => trivial, tailChain⟩
    · simp [written, nothingLost]
  | text c rest literal ih =>
    rw [split_none_cons literal] at closed ⊢
    rw [unclosed_mem_consText_iff] at closed
    obtain ⟨whole, chain, nothingLost⟩ := ih closed
    rw [← nothingLost] at literal
    obtain ⟨whole, chain⟩ := whole_consText literal whole chain
    exact ⟨whole, chain, by rw [flatMap_written_consText, nothingLost]⟩

/-- The stretches of a path expression without an open end are those that give it back and that
could not have been cut otherwise. -/
theorem split_eq_iff {source : List Char} {chunks : List Chunk} :
    (split none source = chunks ∧ .unclosed ∉ chunks) ↔
      (∀ chunk ∈ chunks, chunk.IsWhole) ∧ chunks.IsChain MayPrecede ∧
        chunks.flatMap written = source := by
  constructor
  · rintro ⟨rfl, closed⟩
    exact split_whole source closed
  · rintro ⟨whole, chain, rfl⟩
    refine ⟨split_flatMap_written whole chain, ?_⟩
    intro member
    exact whole .unclosed member

end Splice.Chunk
