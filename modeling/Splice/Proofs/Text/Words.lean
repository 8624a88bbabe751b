import Splice.Text.Blank
import Splice.Text.Identifier

/-! # Words and identifiers

A text is a single word exactly when it is that word with blanks around it. Identifiers hold none of
the characters that separate words or that open and close an action, so every identifier is a word.
-/

namespace Splice.Text

@[simp] theorem words_nil : words [] = [] := rfl

private theorem words_append_blank {c : Char} (blank : isBlank c = true) (front back : List Char) :
    words (front ++ c :: back) = words front ++ words back := by
  simp only [words, List.splitOnP_append_cons front back blank, List.filter_append]

private theorem words_cons_blank {c : Char} (blank : isBlank c = true) (back : List Char) :
    words (c :: back) = words back :=
  words_append_blank blank [] back

private theorem words_of_not_blank {word : List Char} (filled : word ≠ [])
    (solid : ∀ c ∈ word, isBlank c = false) : words word = [word] := by
  simp [words, List.splitOnP_eq_singleton solid, filled]

private theorem words_append_of_blank {front : List Char} (blank : ∀ c ∈ front, isBlank c = true)
    (back : List Char) : words (front ++ back) = words back := by
  induction front with
  | nil => rfl
  | cons c front ih =>
    obtain ⟨head, tail⟩ := List.forall_mem_cons.mp blank
    rw [List.cons_append, words_cons_blank head]
    exact ih tail

private theorem words_word_append {word : List Char} (filled : word ≠ [])
    (solid : ∀ c ∈ word, isBlank c = false) {back : List Char}
    (ends : ∀ c rest, back = c :: rest → isBlank c = true) :
    words (word ++ back) = word :: words back := by
  cases back with
  | nil => simp [words_of_not_blank filled solid]
  | cons c back =>
    have blank := ends c back rfl
    rw [words_append_blank blank, words_of_not_blank filled solid, words_cons_blank blank]
    rfl

private theorem blank_or_exists_word (text : List Char) :
    (∀ c ∈ text, isBlank c = true) ∨ ∃ front word back, text = front ++ word ++ back ∧
      (∀ c ∈ front, isBlank c = true) ∧ word ≠ [] ∧ (∀ c ∈ word, isBlank c = false) ∧
      ∀ c rest, back = c :: rest → isBlank c = true := by
  induction text with
  | nil => exact .inl (by simp)
  | cons c text ih =>
    cases blank : isBlank c with
    | true =>
      rcases ih with allBlank | ⟨front, word, back, rfl, frontBlank, filled, solid, ends⟩
      · exact .inl (List.forall_mem_cons.mpr ⟨blank, allBlank⟩)
      · exact .inr ⟨c :: front, word, back, rfl, List.forall_mem_cons.mpr ⟨blank, frontBlank⟩,
          filled, solid, ends⟩
    | false =>
      right
      rcases ih with allBlank | ⟨front, word, back, rfl, frontBlank, filled, solid, ends⟩
      · refine ⟨[], [c], text, rfl, by simp, by simp, by simpa using blank, ?_⟩
        rintro d rest rfl
        exact allBlank d (List.mem_cons_self ..)
      · cases front with
        | nil =>
          exact ⟨[], c :: word, back, rfl, by simp, by simp,
            List.forall_mem_cons.mpr ⟨blank, solid⟩, ends⟩
        | cons d front =>
          refine ⟨[], [c], d :: front ++ word ++ back, rfl, by simp, by simp,
            by simpa using blank, ?_⟩
          rintro e rest ⟨rfl, rfl⟩
          exact frontBlank d (List.mem_cons_self ..)

theorem words_eq_nil_iff {text : List Char} : words text = [] ↔ ∀ c ∈ text, isBlank c = true := by
  constructor
  · intro none
    rcases blank_or_exists_word text with
      blank | ⟨front, word, back, rfl, blank, filled, solid, ends⟩
    · exact blank
    · rw [List.append_assoc, words_append_of_blank blank,
        words_word_append filled solid ends] at none
      contradiction
  · intro blank
    simpa using words_append_of_blank blank []

/-- A text is a single word exactly when it is that word with blanks around it. -/
theorem words_eq_singleton_iff {text word : List Char} :
    words text = [word] ↔ word ≠ [] ∧ (∀ c ∈ word, isBlank c = false) ∧
      ∃ front back, text = front ++ word ++ back ∧
        (∀ c ∈ front, isBlank c = true) ∧ ∀ c ∈ back, isBlank c = true := by
  constructor
  · intro single
    rcases blank_or_exists_word text with
      blank | ⟨front, first, back, rfl, blank, filled, solid, ends⟩
    · rw [words_eq_nil_iff.mpr blank] at single
      contradiction
    · rw [List.append_assoc, words_append_of_blank blank, words_word_append filled solid ends,
        List.cons.injEq] at single
      obtain ⟨rfl, none⟩ := single
      exact ⟨filled, solid, front, back, rfl, blank, words_eq_nil_iff.mp none⟩
  · rintro ⟨filled, solid, front, back, rfl, frontBlank, backBlank⟩
    have ends : ∀ c rest, back = c :: rest → isBlank c = true := by
      rintro c rest rfl
      exact backBlank c (List.mem_cons_self ..)
    rw [List.append_assoc, words_append_of_blank frontBlank, words_word_append filled solid ends,
      words_eq_nil_iff.mpr backBlank]

/-- The characters that separate words and stages, and that open and close actions. -/
def separatorRanges : List (Nat × Nat) := (123, 125) :: blankRanges

theorem isBlank_eq_false_of_not_separator {c : Char}
    (solid : inRanges separatorRanges c = false) : isBlank c = false := by
  rw [separatorRanges, inRanges, List.any_cons, Bool.or_eq_false_iff] at solid
  exact solid.2

private theorem inRanges_eq_false_of_apart {first : List (Nat × Nat)} (second : List (Nat × Nat))
    (apart : (first.all fun x => second.all fun y => x.2 < y.1 || y.2 < x.1) = true) {c : Char}
    (inFirst : inRanges first c = true) : inRanges second c = false := by
  obtain ⟨x, member, low, high⟩ := (inRanges_eq_true_iff first c).mp inFirst
  rw [← Bool.not_eq_true, inRanges_eq_true_iff]
  rintro ⟨y, otherMember, otherLow, otherHigh⟩
  have between := List.all_eq_true.mp (List.all_eq_true.mp apart x member) y otherMember
  simp only [Bool.or_eq_true, decide_eq_true_eq] at between
  omega

private theorem continuesIdentifier_eq_false_of_separator {c : Char}
    (separator : inRanges separatorRanges c = true) : continuesIdentifier c = false := by
  have notAlphabetic := inRanges_eq_false_of_apart alphabeticRanges (by decide +kernel) separator
  have notNumeric := inRanges_eq_false_of_apart numericRanges (by decide +kernel) separator
  have notUnderscore : (c == '_') = false := by
    rw [beq_eq_false_iff_ne]
    rintro rfl
    revert separator
    decide
  simp [continuesIdentifier, startsIdentifier, notAlphabetic, notNumeric, notUnderscore]

/-- An identifier is not empty and holds no separator. -/
theorem not_separator_of_isIdentifier {name : List Char} (isName : isIdentifier name = true) :
    name ≠ [] ∧ ∀ c ∈ name, inRanges separatorRanges c = false := by
  cases name with
  | nil => contradiction
  | cons first rest =>
    refine ⟨by simp, ?_⟩
    intro c member
    simp only [isIdentifier, Bool.and_eq_true, List.all_eq_true] at isName
    rw [← Bool.not_eq_true]
    intro separator
    have stops := continuesIdentifier_eq_false_of_separator separator
    rcases List.mem_cons.mp member with rfl | member
    · simp [continuesIdentifier, isName.1] at stops
    · rw [isName.2 c member] at stops
      contradiction

end Splice.Text
