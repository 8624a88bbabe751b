import Splice.Text.Bytes

/-! # Slices of a text by byte offsets

A slice exists only between two character boundaries in order, as in a text that is held as UTF-8.
The main statement, `slice?_eq_some_iff`, reads a slice as a way to cut the characters of the text
into a front, the slice and a back; the offsets are the byte lengths that the cut leaves.
-/

namespace Splice.Text

/-- The part of a text between two byte offsets, if both are character boundaries in order. -/
def slice? (text : String) (start stop : Nat) : Option String :=
  if bounds : start ≤ stop ∧
      String.Pos.Raw.IsValid text ⟨start⟩ ∧ String.Pos.Raw.IsValid text ⟨stop⟩ then
    some (text.extract ⟨⟨start⟩, bounds.2.1⟩ ⟨⟨stop⟩, bounds.2.2⟩)
  else none

theorem utf8ByteSize_ofList (text : List Char) :
    (String.ofList text).utf8ByteSize = byteLength text := by
  induction text with
  | nil => rfl
  | cons c rest ih => simp [String.ofList_cons, ih]

theorem byteLength_toList (text : String) : byteLength text.toList = text.utf8ByteSize := by
  rw [← utf8ByteSize_ofList, String.ofList_toList]

private theorem eq_nil_of_byteLength_eq_zero {text : List Char} (empty : byteLength text = 0) :
    text = [] := by
  cases text with
  | nil => rfl
  | cons c rest =>
    have positive := c.utf8Size_pos
    simp only [byteLength_cons] at empty
    omega

private theorem prefix_of_byteLength_le {first second text : List Char}
    (firstFront : first <+: text)
    (secondFront : second <+: text) (shorter : byteLength first ≤ byteLength second) :
    first <+: second := by
  rcases List.prefix_or_prefix_of_prefix firstFront secondFront with before | ⟨rest, rfl⟩
  · exact before
  · rw [byteLength_append] at shorter
    obtain rfl : rest = [] := eq_nil_of_byteLength_eq_zero (by omega)
    simp

private theorem isValid_iff (text : String) (offset : Nat) :
    String.Pos.Raw.IsValid text ⟨offset⟩ ↔
      ∃ front, front <+: text.toList ∧ byteLength front = offset := by
  rw [String.Pos.Raw.isValid_iff_exists_append]
  constructor
  · rintro ⟨front, back, rfl, size⟩
    refine ⟨front.toList, by simp, ?_⟩
    rw [byteLength_toList]
    exact (congrArg String.Pos.Raw.byteIdx size).symm
  · rintro ⟨front, ⟨back, same⟩, rfl⟩
    refine ⟨String.ofList front, String.ofList back, ?_, ?_⟩
    · rw [← String.ofList_append, same, String.ofList_toList]
    · rw [← utf8ByteSize_ofList]
      rfl

private theorem extract_append (front middle back : ByteArray) :
    (front ++ middle ++ back).extract front.size (front.size + middle.size) = middle := by
  have cut := ByteArray.extract_append_size_add (a := front) (b := middle ++ back) (i := 0)
    (j := middle.size)
  rw [ByteArray.append_assoc, ← Nat.add_zero front.size, Nat.add_assoc, Nat.zero_add, cut]
  exact ByteArray.extract_append_eq_left rfl

/-- A cut of the characters of a text into three parts gives its middle as a slice. -/
theorem slice?_of_append {text : String} {front middle back : List Char}
    (same : text.toList = front ++ middle ++ back) :
    slice? text (byteLength front) (byteLength front + byteLength middle) =
      some (String.ofList middle) := by
  obtain rfl : text = String.ofList front ++ String.ofList middle ++ String.ofList back := by
    rw [← String.ofList_append, ← String.ofList_append, ← same, String.ofList_toList]
  have starts : ∃ cut, cut <+: front ++ middle ++ back ∧ byteLength cut = byteLength front :=
    ⟨front, by simp, rfl⟩
  have stops : ∃ cut, cut <+: front ++ middle ++ back ∧
      byteLength cut = byteLength front + byteLength middle :=
    ⟨front ++ middle, List.prefix_append _ _, byteLength_append front middle⟩
  rw [← same, ← isValid_iff] at starts stops
  rw [slice?, dif_pos ⟨Nat.le_add_right _ _, starts, stops⟩]
  congr 1
  apply String.toByteArray_inj.mp
  rw [String.toByteArray_extract, String.toByteArray_append, String.toByteArray_append]
  simpa only [String.size_toByteArray, utf8ByteSize_ofList] using extract_append
    (String.ofList front).toByteArray (String.ofList middle).toByteArray
    (String.ofList back).toByteArray

/-- A slice cuts the text into a front, the slice and a back. -/
theorem slice?_eq_some_iff {text slice : String} {start stop : Nat} :
    slice? text start stop = some slice ↔
      ∃ front back, text.toList = front ++ slice.toList ++ back ∧
        byteLength front = start ∧ start + byteLength slice.toList = stop := by
  constructor
  · intro found
    have bounds : start ≤ stop ∧
        String.Pos.Raw.IsValid text ⟨start⟩ ∧ String.Pos.Raw.IsValid text ⟨stop⟩ := by
      unfold slice? at found
      split at found
      · assumption
      · contradiction
    obtain ⟨order, starts, stops⟩ := bounds
    obtain ⟨front, atStart, rfl⟩ := (isValid_iff text start).mp starts
    obtain ⟨upTo, ⟨back, same⟩, rfl⟩ := (isValid_iff text stop).mp stops
    obtain ⟨middle, rfl⟩ := prefix_of_byteLength_le atStart ⟨back, same⟩ order
    rw [byteLength_append, slice?_of_append same.symm, Option.some.injEq] at found
    subst found
    exact ⟨front, back, by simp [same], rfl, by simp⟩
  · rintro ⟨front, back, same, rfl, rfl⟩
    rw [slice?_of_append same, String.ofList_toList]

end Splice.Text
