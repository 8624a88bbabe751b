import Mathlib
import Splice.Text.LowerCase

/-! # Lower-casing twice

No character that lower-casing brings about has a lower-case form of its own. This is checked of the
table as a whole: the codes that have a form and the codes of the forms are two sets without a
common member. The main statement is `lower_lower`.
-/

namespace Splice.Text

/-! ## The table -/

namespace CaseRun

/-- The codes of a run. -/
def codes (run : CaseRun) : List Nat :=
  (List.range ((run.last - run.first) / run.stride + 1)).map fun step =>
    run.first + run.stride * step

/-- The codes of the lower-case forms of a run. -/
def forms (run : CaseRun) : List Nat :=
  run.codes.map fun (code : Nat) => (code + run.offset).toNat

private theorem mem_codes_of_contains {run : CaseRun} {code : Nat}
    (member : run.contains code = true) :
    code ∈ run.codes := by
  simp only [contains, Bool.and_eq_true, decide_eq_true_eq, beq_iff_eq] at member
  obtain ⟨⟨least, greatest⟩, inStep⟩ := member
  have steps : (code - run.first) / run.stride ≤ (run.last - run.first) / run.stride :=
    Nat.div_le_div_right (by omega)
  have reached := Nat.mul_div_cancel' (Nat.dvd_of_mod_eq_zero inStep)
  refine List.mem_map.mpr ⟨(code - run.first) / run.stride, ?_, by omega⟩
  exact List.mem_range.mpr (Nat.lt_succ_of_le steps)

private theorem mem_forms_of_contains {run : CaseRun} {code : Nat}
    (member : run.contains code = true) :
    (code + run.offset).toNat ∈ run.forms :=
  List.mem_map_of_mem (mem_codes_of_contains member)

end CaseRun

/-- A set of codes as one number, with a bit for each of them. -/
def bits (codes : List Nat) : Nat :=
  codes.foldr (fun code set => 1 <<< code ||| set) 0

private theorem testBit_bits {codes : List Nat} {code : Nat} :
    (bits codes).testBit code = true ↔ code ∈ codes := by
  induction codes with
  | nil => simp [bits]
  | cons head rest ih =>
    have split : bits (head :: rest) = 1 <<< head ||| bits rest := rfl
    rw [split, Nat.testBit_or, Bool.or_eq_true, ih, Nat.one_shiftLeft, Nat.testBit_two_pow,
      decide_eq_true_eq, List.mem_cons, eq_comm]

private theorem not_mem_of_bits {codes others : List Nat} (apart : bits codes &&& bits others = 0)
    {code : Nat} (member : code ∈ others) : code ∉ codes := by
  intro common
  have both : (bits codes &&& bits others).testBit code = true := by
    rw [Nat.testBit_and, testBit_bits.mpr common, testBit_bits.mpr member]
    rfl
  rw [apart, Nat.zero_testBit] at both
  contradiction

/-- The codes of the characters that have lower-case forms of their own: those of the table, and the
one of the dotted capital I. -/
def casingCodes : List Nat :=
  0x130 :: caseRuns.flatMap CaseRun.codes

private theorem bits_casingCodes_and_forms :
    bits casingCodes &&& bits (caseRuns.flatMap CaseRun.forms) = 0 := by
  decide +kernel

private theorem valid_of_mem_forms :
    ∀ run ∈ caseRuns, ∀ form ∈ run.forms, form < 0xD800 ∨ 0xDFFF < form ∧ form < 0x110000 := by
  decide +kernel

/-! ## Characters -/

/-- A character that lower-casing leaves as it is, wherever it stands. -/
def IsLowered (c : Char) : Prop :=
  c ≠ 'Σ' ∧ lowerChar c = [c]

instance (c : Char) : Decidable (IsLowered c) :=
  inferInstanceAs (Decidable (_ ∧ _))

private theorem isLowered_of_not_mem {c : Char} (formless : c.toNat ∉ casingCodes) :
    IsLowered c := by
  obtain ⟨undotted, unlisted⟩ := not_or.mp (mt List.mem_cons.mpr formless)
  constructor
  · rintro rfl
    have listed : 0x3A3 ∈ caseRuns.flatMap CaseRun.codes := by decide +kernel
    exact unlisted listed
  · have plain : c ≠ 'İ' := by
      rintro rfl
      exact undotted rfl
    have unfound : caseRuns.find? (·.contains c.toNat) = none := by
      rw [List.find?_eq_none]
      intro run member found
      exact unlisted (List.mem_flatMap.mpr ⟨run, member, CaseRun.mem_codes_of_contains found⟩)
    rw [lowerChar, if_neg plain, unfound]

private theorem isLowered_of_contains {run : CaseRun} (listed : run ∈ caseRuns) {code : Nat}
    (member : run.contains code = true) :
    IsLowered (Char.ofNat (code + run.offset).toNat) := by
  have isForm := CaseRun.mem_forms_of_contains member
  have valid : (code + run.offset).toNat.isValidChar :=
    (valid_of_mem_forms run listed _ isForm).imp_right fun bounds => bounds
  apply isLowered_of_not_mem
  rw [Char.toNat_ofNat, if_pos valid]
  exact not_mem_of_bits bits_casingCodes_and_forms (List.mem_flatMap.mpr ⟨run, listed, isForm⟩)

private theorem isLowered_of_mem_lowerChar {c form : Char} (ordinary : c ≠ 'Σ')
    (member : form ∈ lowerChar c) : IsLowered form := by
  unfold lowerChar at member
  split at member
  · next dotted =>
    have both : ∀ form ∈ ['i', '\u0307'], IsLowered form :=
      List.all_iff_forall_prop.mp (by decide +kernel)
    exact both form member
  · next plain =>
    split at member
    · next run found =>
      obtain rfl := List.mem_singleton.mp member
      have inRun : run.contains c.toNat = true := by simpa using List.find?_some found
      exact isLowered_of_contains (List.mem_of_find?_eq_some found) inRun
    · next unlisted =>
      obtain rfl := List.mem_singleton.mp member
      refine ⟨ordinary, ?_⟩
      rw [lowerChar, if_neg plain, unlisted]

/-! ## Texts -/

private theorem isLowered_lowerSigma (before after : List Char) :
    IsLowered (lowerSigma before after) := by
  have both : IsLowered 'ς' ∧ IsLowered 'σ' := by decide +kernel
  unfold lowerSigma
  split
  · exact both.1
  · exact both.2

private theorem isLowered_of_mem_lowerAfter {before text : List Char} {form : Char}
    (member : form ∈ lowerAfter before text) : IsLowered form := by
  induction text generalizing before with
  | nil => contradiction
  | cons c rest ih =>
    rw [lowerAfter, List.mem_append] at member
    rcases member with head | tail
    · split at head
      · obtain rfl := List.mem_singleton.mp head
        exact isLowered_lowerSigma before rest
      · next ordinary => exact isLowered_of_mem_lowerChar ordinary head
    · exact ih tail

/-- Without a capital sigma the context of a character does not matter. -/
private theorem lowerAfter_of_isLowered {before text : List Char}
    (lowered : ∀ c ∈ text, IsLowered c) :
    lowerAfter before text = text := by
  induction text generalizing before with
  | nil => rfl
  | cons c rest ih =>
    obtain ⟨⟨ordinary, kept⟩, others⟩ := List.forall_mem_cons.mp lowered
    rw [lowerAfter, if_neg ordinary, kept, ih others]
    rfl

/-- A text that was lowered is lowered. -/
theorem lower_lower (text : String) : lower (lower text) = lower text := by
  have lowered : ∀ c ∈ (lower text).toList, IsLowered c := by
    intro c member
    rw [lower, String.toList_ofList] at member
    exact isLowered_of_mem_lowerAfter member
  rw [lower, lowerAfter_of_isLowered lowered, String.ofList_toList]

theorem iterate_lower_of_pos {count : Nat} (positive : 0 < count) (text : String) :
    lower^[count] text = lower text := by
  obtain ⟨count, rfl⟩ := Nat.exists_eq_succ_of_ne_zero (Nat.ne_of_gt positive)
  rw [Function.iterate_succ_apply]
  exact Function.iterate_fixed (lower_lower text) count

/-- The dotted capital I becomes two characters, and of two capital sigmas the last one takes its
final form. -/
example : lower "İΣΣ" = "i\u0307σς" := by
  decide +kernel

end Splice.Text
