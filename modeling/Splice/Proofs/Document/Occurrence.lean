import Splice.Document
import Splice.Proofs.Text.Slice

/-! # Occurrences of placeholders

An occurrence is a stretch of a document that reads as a placeholder, wherever it stands. No two
occurrences overlap, because a placeholder holds two opening braces in a row only at its start. The
pieces of a document therefore hold every occurrence, although each of them is found at the head of
what the ones before it left over.
-/

namespace Splice.Document

/-- A text that can stand between the braces of a placeholder. -/
def IsInner (inner : List Char) : Prop :=
  inner ≠ [] ∧ ∀ c ∈ inner, c ≠ '{' ∧ c ≠ '}'

private theorem isBrace_eq_false_iff (c : Char) : isBrace c = false ↔ c ≠ '{' ∧ c ≠ '}' := by
  simp [isBrace]

/-- A placeholder is found at the head of a text exactly when it is written there. -/
theorem placeholderAt?_eq_some_iff {text inner : List Char} :
    placeholderAt? text = some inner ↔
      IsInner inner ∧ ∃ rest, text = (Piece.placeholder inner).text ++ rest := by
  constructor
  · intro found
    obtain ⟨filled, braceless, rest, same⟩ := placeholderAt?_eq_some found
    exact ⟨⟨filled, fun c member => (isBrace_eq_false_iff c).mp (braceless c member)⟩, rest, same⟩
  · rintro ⟨⟨filled, braceless⟩, rest, rfl⟩
    have stays : ∀ c ∈ inner, (!isBrace c) = true := fun c member => by
      simpa using (isBrace_eq_false_iff c).mpr (braceless c member)
    have stops : (!isBrace '}') = false := rfl
    simp [Piece.text, placeholderAt?, List.takeWhile_append_of_pos stays,
      List.dropWhile_append_of_pos stays, stops, filled]

/-- The inner texts of two placeholders that stand at the head of one text are the same. -/
theorem IsInner.eq_of_append {first second firstRest secondRest : List Char}
    (isFirst : IsInner first) (isSecond : IsInner second)
    (same : (Piece.placeholder first).text ++ firstRest =
      (Piece.placeholder second).text ++ secondRest) : first = second := by
  have found := placeholderAt?_eq_some_iff.mpr ⟨isFirst, firstRest, rfl⟩
  rw [same, placeholderAt?_eq_some_iff.mpr ⟨isSecond, secondRest, rfl⟩] at found
  exact (Option.some.inj found).symm

private theorem IsInner.prefix_of_append {first second front firstRest secondRest : List Char}
    (isFirst : IsInner first)
    (same : (Piece.placeholder first).text ++ firstRest =
      front ++ (Piece.placeholder second).text ++ secondRest)
    (behind : front ≠ []) : (Piece.placeholder first).text <+: front := by
  rw [List.append_assoc] at same
  rcases List.append_eq_append_iff.mp same with ⟨gap, whole, _⟩ | ⟨tail, whole, rest⟩
  · exact ⟨gap, whole.symm⟩
  cases tail with
  | nil => exact ⟨[], by simpa using whole⟩
  | cons c tail =>
    -- The second placeholder starts inside the first one: its opening braces have no room there.
    exfalso
    simp only [Piece.text, List.cons_append, List.nil_append, List.cons.injEq] at whole rest
    obtain ⟨rfl, rest⟩ := rest
    obtain ⟨_, front, rfl⟩ := List.exists_cons_of_ne_nil behind
    cases front with
    | nil =>
      obtain ⟨d, inner, rfl⟩ := List.exists_cons_of_ne_nil isFirst.1
      simp only [List.cons_append, List.nil_append, List.cons.injEq, true_and] at whole
      obtain ⟨_, rfl⟩ := whole
      simp only [List.cons_append, List.cons.injEq] at rest
      exact (isFirst.2 d (List.mem_cons_self ..)).1 rest.1.symm
    | cons _ front =>
      simp only [List.cons_append, List.cons.injEq] at whole
      have member : '{' ∈ first ++ ['}', '}'] := by simp [whole.2.2]
      rcases List.mem_append.mp member with member | member
      · exact (isFirst.2 '{' member).1 rfl
      · simp at member

private theorem consLiteral_append_placeholder (c : Char) (before after : List Piece)
    (inner : List Char) :
    consLiteral c (before ++ .placeholder inner :: after) =
      consLiteral c before ++ .placeholder inner :: after := by
  match before with
  | [] => rfl
  | .literal _ :: _ => rfl
  | .placeholder _ :: _ => rfl

/-- A placeholder that occurs in what is left of a text is one of its pieces. The induction follows
the search; a placeholder that was found is skipped as a whole, and no other one starts in it. -/
theorem piecesAfter_eq_append {skip : Nat} {text front inner back : List Char}
    (isInner : IsInner inner)
    (same : text.drop skip = front ++ (Piece.placeholder inner).text ++ back) :
    ∃ before after, piecesAfter skip text = before ++ .placeholder inner :: after ∧
      before.flatMap Piece.text = front := by
  fun_induction piecesAfter skip text generalizing front with
  | case1 => simp [Piece.text] at same
  | case2 skip c rest ih => exact ih (by simpa using same)
  | case3 c rest found foundAt ih =>
    obtain ⟨isFound, after, whole⟩ := placeholderAt?_eq_some_iff.mp foundAt
    rw [List.drop_zero, whole] at same
    by_cases atHead : front = []
    · subst atHead
      obtain rfl := isFound.eq_of_append isInner same
      exact ⟨[], _, rfl, rfl⟩
    · obtain ⟨gap, rfl⟩ := isFound.prefix_of_append same atHead
      have skipped : rest.drop (found.length + 3) = after := by
        simp only [Piece.text, List.cons_append, List.nil_append, List.cons.injEq] at whole
        rw [whole.2]
        simp
      simp only [List.append_assoc, List.append_cancel_left_eq] at same
      have left : rest.drop (found.length + 3) = gap ++ (Piece.placeholder inner).text ++ back := by
        rw [skipped, same, List.append_assoc]
      obtain ⟨before, behind, pieces, texts⟩ := ih left
      exact ⟨.placeholder found :: before, behind, by simp [pieces], by simp [texts]⟩
  | case4 c rest notFound ih =>
    cases front with
    | nil =>
      have found := placeholderAt?_eq_some_iff.mpr ⟨isInner, back, same⟩
      rw [List.drop_zero, notFound] at found
      contradiction
    | cons d front =>
      simp only [List.drop_zero, List.cons_append, List.cons.injEq] at same
      obtain ⟨rfl, same⟩ := same
      obtain ⟨before, after, pieces, texts⟩ := ih (by simpa using same)
      exact ⟨consLiteral c before, after, by rw [pieces, consLiteral_append_placeholder],
        by rw [flatMap_text_consLiteral, texts]⟩

private theorem placeholder_mem_consLiteral {c : Char} {pieces : List Piece} {inner : List Char}
    (member : .placeholder inner ∈ consLiteral c pieces) : .placeholder inner ∈ pieces := by
  unfold consLiteral at member
  split at member <;> simpa using member

/-- The placeholders among the pieces of a text have inner texts without braces. -/
theorem isInner_of_mem_piecesAfter {skip : Nat} {text inner : List Char}
    (member : .placeholder inner ∈ piecesAfter skip text) : IsInner inner := by
  fun_induction piecesAfter skip text with
  | case1 => simp at member
  | case2 skip c rest ih => exact ih member
  | case3 c rest found foundAt ih =>
    rcases List.mem_cons.mp member with same | member
    · cases same
      exact (placeholderAt?_eq_some_iff.mp foundAt).1
    · exact ih member
  | case4 c rest notFound ih => exact ih (placeholder_mem_consLiteral member)

/-- The placeholder with a given inner text that starts at an offset. -/
def Placeholder.ofInner (start : Nat) (inner : List Char) : Placeholder where
  text := String.ofList (Piece.placeholder inner).text
  inner := String.ofList inner
  start := start
  stop := start + Text.byteLength (Piece.placeholder inner).text

theorem Placeholder.ofInner_start_lt_stop (start : Nat) (inner : List Char) :
    (ofInner start inner).start < (ofInner start inner).stop := by
  have positive : 0 < '{'.utf8Size := by decide
  simp only [ofInner, Piece.text, List.cons_append, Text.byteLength_cons]
  omega

end Splice.Document
