import Mathlib.Data.List.Pairwise
import Splice.Proofs.Document.Substitution

/-! # The placeholders of a document by their offsets

A scan reports each placeholder with its byte offsets. The main statement says that these are the
offsets of the occurrences in the document, each of them once and in order.
-/

namespace Splice.Document

/-- A stretch of a document, between two byte offsets on character boundaries, that reads as a
placeholder. -/
def IsOccurrence (document : String) (start stop : Nat) : Prop :=
  ∃ inner : List Char, inner ≠ [] ∧ (∀ c ∈ inner, c ≠ '{' ∧ c ≠ '}') ∧
    Text.slice? document start stop = some (String.ofList (['{', '{'] ++ inner ++ ['}', '}']))

private theorem isOccurrence_iff {document : String} {start stop : Nat} :
    IsOccurrence document start stop ↔ ∃ front inner back, IsInner inner ∧
      document.toList = front ++ (Piece.placeholder inner).text ++ back ∧
      Text.byteLength front = start ∧ (Placeholder.ofInner start inner).stop = stop := by
  constructor
  · rintro ⟨inner, filled, braceless, found⟩
    obtain ⟨front, back, same, starts, stops⟩ := Text.slice?_eq_some_iff.mp found
    rw [String.toList_ofList] at same stops
    exact ⟨front, inner, back, ⟨filled, braceless⟩, same, starts, stops⟩
  · rintro ⟨front, inner, back, isInner, same, starts, stops⟩
    refine ⟨inner, isInner.1, isInner.2, Text.slice?_eq_some_iff.mpr ⟨front, back, ?_, starts, ?_⟩⟩
    · rw [String.toList_ofList]
      exact same
    · rw [String.toList_ofList]
      exact stops

private theorem mem_placeholdersFrom_iff {offset : Nat} {pieces : List Piece}
    {found : Placeholder} :
    found ∈ placeholdersFrom offset pieces ↔ ∃ before inner after,
      pieces = before ++ .placeholder inner :: after ∧
        found = .ofInner (offset + Text.byteLength (before.flatMap Piece.text)) inner := by
  induction pieces generalizing offset with
  | nil => simp [placeholdersFrom]
  | cons piece rest ih =>
    cases piece with
    | literal text =>
      simp only [placeholdersFrom, ih, List.cons_eq_append_iff]
      constructor
      · rintro ⟨before, inner, after, rfl, rfl⟩
        exact ⟨.literal text :: before, inner, after, .inr ⟨before, rfl, rfl⟩,
          by simp [Nat.add_assoc]⟩
      · rintro ⟨before, inner, after, ⟨_, same⟩ | ⟨before, rfl, rfl⟩, rfl⟩
        · cases same
        · exact ⟨before, inner, after, rfl, by simp [Nat.add_assoc]⟩
    | placeholder inner =>
      simp only [placeholdersFrom, List.mem_cons, ih, List.cons_eq_append_iff]
      constructor
      · rintro (rfl | ⟨before, other, after, rfl, rfl⟩)
        · exact ⟨[], inner, rest, .inl ⟨rfl, rfl⟩, rfl⟩
        · exact ⟨.placeholder inner :: before, other, after, .inr ⟨before, rfl, rfl⟩,
            by simp [Nat.add_assoc]⟩
      · rintro ⟨before, other, after, ⟨rfl, same⟩ | ⟨before, rfl, rfl⟩, rfl⟩
        · cases same
          exact .inl rfl
        · exact .inr ⟨before, other, after, rfl, by simp [Nat.add_assoc]⟩

/-- A scan reports what is written in the document. -/
theorem mem_scan_iff {document : String} {found : Placeholder} :
    found ∈ scan document ↔ ∃ front inner back, IsInner inner ∧
      document.toList = front ++ (Piece.placeholder inner).text ++ back ∧
      found = .ofInner (Text.byteLength front) inner := by
  simp only [scan, mem_placeholdersFrom_iff, Nat.zero_add]
  constructor
  · rintro ⟨before, inner, after, split, rfl⟩
    refine ⟨before.flatMap Piece.text, inner, after.flatMap Piece.text, ?_, ?_, rfl⟩
    · have member : .placeholder inner ∈ pieces document := by simp [split]
      exact isInner_of_mem_piecesAfter member
    · rw [← flatMap_text_pieces, split]
      simp
  · rintro ⟨front, inner, back, isInner, same, rfl⟩
    obtain ⟨before, after, split, rfl⟩ := @piecesAfter_eq_append 0 _ _ _ _ isInner same
    exact ⟨before, inner, after, split, rfl⟩

private theorem le_start_of_mem_placeholdersFrom {offset : Nat} {pieces : List Piece}
    {found : Placeholder}
    (member : found ∈ placeholdersFrom offset pieces) : offset ≤ found.start := by
  obtain ⟨before, inner, after, _, rfl⟩ := mem_placeholdersFrom_iff.mp member
  exact Nat.le_add_right _ _

private theorem pairwise_placeholdersFrom (offset : Nat) (pieces : List Piece) :
    (placeholdersFrom offset pieces).Pairwise fun first second => first.stop ≤ second.start := by
  induction pieces generalizing offset with
  | nil => simp [placeholdersFrom]
  | cons piece rest ih =>
    cases piece with
    | literal text => exact ih _
    | placeholder inner =>
      refine List.pairwise_cons.mpr ⟨?_, ih _⟩
      intro second member
      exact le_start_of_mem_placeholdersFrom member

private theorem start_lt_stop_of_mem_scan {document : String} {found : Placeholder}
    (member : found ∈ scan document) : found.start < found.stop := by
  obtain ⟨front, inner, back, _, _, rfl⟩ := mem_scan_iff.mp member
  exact Placeholder.ofInner_start_lt_stop _ _

/-- Placeholders are reported in order, and no two of them overlap. -/
theorem pairwise_scan (document : String) :
    (scan document).Pairwise fun first second =>
      first.start < second.start ∧ first.stop ≤ second.start := by
  apply (pairwise_placeholdersFrom 0 (pieces document)).imp_of_mem
  intro first second member _ behind
  have forward := start_lt_stop_of_mem_scan member
  exact ⟨by omega, behind⟩

private theorem exists_mem_scan_iff {document : String} {start stop : Nat} :
    (∃ found ∈ scan document, found.start = start ∧ found.stop = stop) ↔
      IsOccurrence document start stop := by
  simp only [mem_scan_iff, isOccurrence_iff]
  constructor
  · rintro ⟨found, ⟨front, inner, back, isInner, same, rfl⟩, rfl, rfl⟩
    exact ⟨front, inner, back, isInner, same, rfl, rfl⟩
  · rintro ⟨front, inner, back, isInner, same, rfl, rfl⟩
    exact ⟨_, ⟨front, inner, back, isInner, same, rfl⟩, rfl, rfl⟩

private theorem slice?_of_mem_scan {document : String} {found : Placeholder}
    (member : found ∈ scan document) :
    Text.slice? document found.start found.stop = some found.text ∧
      Text.slice? found.text 2 (found.text.utf8ByteSize - 2) = some found.inner := by
  obtain ⟨front, inner, back, _, same, rfl⟩ := mem_scan_iff.mp member
  refine ⟨Text.slice?_of_append same, ?_⟩
  have braces : (Placeholder.ofInner (Text.byteLength front) inner).text.toList =
      ['{', '{'] ++ inner ++ ['}', '}'] := String.toList_ofList
  have size := Text.byteLength_toList (Placeholder.ofInner (Text.byteLength front) inner).text
  have opening : Text.byteLength ['{', '{'] = 2 := by decide
  have closing : Text.byteLength ['}', '}'] = 2 := by decide
  rw [braces, Text.byteLength_append, Text.byteLength_append, opening, closing] at size
  have taken := Text.slice?_of_append braces
  rw [opening] at taken
  rwa [← size, Nat.add_sub_cancel]

private theorem IsOccurrence.eq_or_apart {document : String} {start stop otherStart otherStop : Nat}
    (occurs : IsOccurrence document start stop)
    (otherOccurs : IsOccurrence document otherStart otherStop) :
    (start = otherStart ∧ stop = otherStop) ∨ stop ≤ otherStart ∨ otherStop ≤ start := by
  obtain ⟨found, member, rfl, rfl⟩ := exists_mem_scan_iff.mpr occurs
  obtain ⟨other, otherMember, rfl, rfl⟩ := exists_mem_scan_iff.mpr otherOccurs
  by_cases same : found = other
  · exact .inl ⟨congrArg _ same, congrArg _ same⟩
  · have symmetric : Std.Symm fun first second : Placeholder =>
        first.stop ≤ second.start ∨ second.stop ≤ first.start := ⟨fun _ _ => Or.symm⟩
    have apart : (scan document).Pairwise fun first second =>
        first.stop ≤ second.start ∨ second.stop ≤ first.start :=
      (pairwise_placeholdersFrom 0 (pieces document)).imp .inl
    exact .inr (apart.forall member otherMember same)

private theorem placeholdersFrom_eq_nil_iff (offset : Nat) (pieces : List Piece) :
    placeholdersFrom offset pieces = [] ↔ pieces.any Piece.isPlaceholder = false := by
  induction pieces generalizing offset with
  | nil => simp [placeholdersFrom]
  | cons piece rest ih =>
    cases piece with
    | literal text => simpa [placeholdersFrom, Piece.isPlaceholder] using ih _
    | placeholder inner => simp [placeholdersFrom, Piece.isPlaceholder]

theorem hasPlaceholders_iff (document : String) :
    hasPlaceholders document = true ↔ scan document ≠ [] := by
  rw [scan, ne_eq, placeholdersFrom_eq_nil_iff, hasPlaceholders, Bool.not_eq_false]

/-- A scan reports exactly the occurrences of placeholders, with their texts. They lie apart, and
each is reported once, in order. The stretches between them are slices of the document, which gives
the document back when the placeholders are put between them. -/
theorem scan_exact (document : String) :
    (∀ start stop, (∃ found ∈ scan document, found.start = start ∧ found.stop = stop) ↔
      IsOccurrence document start stop) ∧
    (∀ found ∈ scan document, Text.slice? document found.start found.stop = some found.text ∧
      Text.slice? found.text 2 (found.text.utf8ByteSize - 2) = some found.inner) ∧
    (∀ start stop otherStart otherStop, IsOccurrence document start stop →
      IsOccurrence document otherStart otherStop →
      (start = otherStart ∧ stop = otherStop) ∨ stop ≤ otherStart ∨ otherStop ≤ start) ∧
    (scan document).Pairwise (fun first second =>
      first.start < second.start ∧ first.stop ≤ second.start) ∧
    substitute? document Placeholder.text = some document ∧
    (∀ replace, ∃ output, substitute? document replace = some output) ∧
    (hasPlaceholders document = true ↔ scan document ≠ []) := by
  refine ⟨?_, ?_, ?_, pairwise_scan document, substitute?_text document, ?_,
    hasPlaceholders_iff document⟩
  · intro start stop
    exact exists_mem_scan_iff
  · intro found member
    exact slice?_of_mem_scan member
  · intro start stop otherStart otherStop occurs otherOccurs
    exact occurs.eq_or_apart otherOccurs
  · intro replace
    exact ⟨_, substitute?_eq_some document replace⟩

/-- Of braces that open too often, the last two count. -/
example : scan "é\x7b\x7ba\x7b\x7b\x7bx\x7d\x7d\x7d" = [⟨"\x7b\x7bx\x7d\x7d", "x", 6, 11⟩] := by
  decide +kernel

end Splice.Document
