import Mathlib.Data.List.TakeWhile
import Splice.Proofs.Secret.Quoted

/-! # How far reading looks ahead

An escape is read up to the next quote at most, and a number up to the next character that cannot
stand in one. What comes behind counts only by its length: two texts that agree so far, and go on
for equally many bytes, are read alike.
-/

namespace Splice.Secret

open Splice.Text

/-- Two texts that agree up to a character of some sort, and go on for equally many bytes. -/
inductive AgreeUpTo (Stops : Char → Prop) : List Char → List Char → Prop
  | stop {c : Char} {rest other : List Char} : Stops c → byteLength rest = byteLength other →
      AgreeUpTo Stops (c :: rest) (c :: other)
  | next {text other : List Char} (c : Char) : AgreeUpTo Stops text other →
      AgreeUpTo Stops (c :: text) (c :: other)

namespace AgreeUpTo

variable {Stops : Char → Prop} {text other : List Char}

private theorem symm (agree : AgreeUpTo Stops text other) : AgreeUpTo Stops other text := by
  induction agree with
  | stop stops same => exact .stop stops same.symm
  | next c _ ih => exact .next c ih

theorem byteLength_eq (agree : AgreeUpTo Stops text other) :
    byteLength text = byteLength other := by
  induction agree with
  | stop _ same => simp [same]
  | next c _ ih => simp [ih]

theorem exists_cons (agree : AgreeUpTo Stops text other) :
    ∃ c rest otherRest, text = c :: rest ∧ other = c :: otherRest := by
  cases agree <;> exact ⟨_, _, _, rfl, rfl⟩

/-- Texts with a common front agree up to a character in it, or in what comes behind. -/
theorem append (front : List Char) (agree : AgreeUpTo Stops text other) :
    AgreeUpTo Stops (front ++ text) (front ++ other) := by
  induction front with
  | nil => exact agree
  | cons c front ih => exact .next c ih

theorem of_mem {front : List Char} {c : Char} (member : c ∈ front) (stops : Stops c)
    (same : byteLength text = byteLength other) :
    AgreeUpTo Stops (front ++ text) (front ++ other) := by
  obtain ⟨before, after, rfl⟩ := List.append_of_mem member
  rw [List.append_assoc, List.append_assoc]
  exact append before (.stop stops (by simp [same]))

private theorem of_append {front rest : List Char} (agree : AgreeUpTo Stops (front ++ rest) other)
    (plain : ∀ c ∈ front, ¬ Stops c) :
    ∃ otherRest, other = front ++ otherRest ∧ AgreeUpTo Stops rest otherRest := by
  induction front generalizing other with
  | nil => exact ⟨other, rfl, agree⟩
  | cons c front ih =>
    obtain ⟨plainHead, plainTail⟩ := List.forall_mem_cons.mp plain
    cases agree with
    | stop stops _ => exact absurd stops plainHead
    | next _ agree =>
      obtain ⟨otherRest, rfl, behind⟩ := ih agree plainTail
      exact ⟨otherRest, rfl, behind⟩

end AgreeUpTo

/-! ## Escapes -/

/-- Two texts that agree up to a quote. -/
abbrev AgreeUpToQuote : List Char → List Char → Prop :=
  AgreeUpTo (· = '\"')

private theorem IsHexDigit.mem {digit : Char} {value : Nat} (isDigit : IsHexDigit digit value) :
    digit ∈ "0123456789abcdefABCDEF".toList := by
  have lower : "0123456789abcdef".toList ⊆ "0123456789abcdefABCDEF".toList := by decide
  have upper : "0123456789ABCDEF".toList ⊆ "0123456789abcdefABCDEF".toList := by decide
  rcases isDigit with found | found
  · exact lower (List.mem_of_getElem? found)
  · exact upper (List.mem_of_getElem? found)

theorem SpellsUnit.subset {unit : Nat} {digits : List Char} (spelled : SpellsUnit unit digits) :
    digits ⊆ "0123456789abcdefABCDEF".toList := by
  obtain ⟨first, second, third, fourth⟩ := spelled
  simp only [List.cons_subset, List.nil_subset, and_true]
  exact ⟨first.mem, second.mem, third.mem, fourth.mem⟩

/-- The characters of escapes by units. -/
theorem subset_of_spelledUnits {units : List Nat} {digits : List (List Char)}
    (spelled : List.Forall₂ SpellsUnit units digits) :
    digits.flatMap (['\\', 'u'] ++ ·) ⊆ "\\u0123456789abcdefABCDEF".toList := by
  have hexadecimal : "0123456789abcdefABCDEF".toList ⊆ "\\u0123456789abcdefABCDEF".toList := by
    decide
  induction spelled with
  | nil => exact List.nil_subset _
  | cons head _ ih =>
    rw [List.flatMap_cons, List.append_subset, List.append_subset]
    exact ⟨⟨by decide, List.Subset.trans head.subset hexadecimal⟩, ih⟩

private theorem SpellsUnit.ne_quote {unit : Nat} {digits : List Char}
    (spelled : SpellsUnit unit digits) :
    ∀ c ∈ digits, c ≠ '\"' := by
  rintro c member rfl
  exact absurd (spelled.subset member) (by decide)

section

variable {text other : List Char}

private theorem hexUnit?_of_agree (agree : AgreeUpToQuote text other) :
    hexUnit? other = hexUnit? text := by
  have reads {text other : List Char} {unit : Nat} (agree : AgreeUpToQuote text other)
      (read : hexUnit? text = some unit) : hexUnit? other = some unit := by
    obtain ⟨digits, rest, spelled, rfl⟩ := hexUnit?_eq_some_iff.mp read
    obtain ⟨otherRest, rfl, _⟩ := agree.of_append spelled.ne_quote
    exact hexUnit?_eq_some_iff.mpr ⟨digits, otherRest, spelled, rfl⟩
  exact Option.ext fun unit => ⟨reads agree.symm, reads agree⟩

private theorem readHexUnit_of_agree (agree : AgreeUpToQuote text other) :
    readHexUnit other = readHexUnit text := by
  simp only [readHexUnit, hexUnit?_of_agree agree, agree.byteLength_eq, faultPast]

private theorem AgreeUpTo.drop_unit {unit : Nat} (agree : AgreeUpToQuote text other)
    (read : readHexUnit text = .ok unit) : AgreeUpToQuote (text.drop 4) (other.drop 4) := by
  obtain ⟨digits, rest, spelled, rfl⟩ := readHexUnit_eq_ok_iff.mp read
  obtain ⟨otherRest, rfl, behind⟩ := agree.of_append spelled.ne_quote
  rwa [List.drop_left' spelled.length_eq, List.drop_left' spelled.length_eq]

private theorem readTrailingUnit_of_agree (agree : AgreeUpToQuote text other) :
    readTrailingUnit other = readTrailingUnit text := by
  cases agree with
  | stop stops same =>
    subst stops
    simp [readTrailingUnit, faultPast, same]
  | next c agree =>
    by_cases backslash : c = '\\'
    · subst backslash
      cases agree with
      | stop stops same =>
        subst stops
        simp [readTrailingUnit, faultPast, same]
      | next d agree =>
        by_cases isUnit : d = 'u'
        · subst isUnit
          have same := readHexUnit_of_agree agree
          simp only [readTrailingUnit, same]
          cases read : readHexUnit _ with
          | error fault => rfl
          | ok unit =>
            simp only [bind, Except.bind, faultAt, (agree.drop_unit read).byteLength_eq]
        · simp [readTrailingUnit, isUnit, faultPast, agree.byteLength_eq]
    · simp [readTrailingUnit, backslash, faultPast, agree.byteLength_eq]

/-- An escape is read alike in texts that agree up to a quote behind its first character, which may
be a quote itself. -/
theorem readEscape_of_agree (c : Char) (agree : AgreeUpToQuote text other) :
    readEscape (c :: other) = readEscape (c :: text) := by
  by_cases isUnit : c = 'u'
  · subst isUnit
    have same := readHexUnit_of_agree agree
    simp only [readEscape, same]
    cases read : readHexUnit _ with
    | error fault => rfl
    | ok unit =>
      have behind := agree.drop_unit read
      simp only [bind, Except.bind, faultAt, behind.byteLength_eq,
        readTrailingUnit_of_agree behind]
  · simp [readEscape, faultPast, agree.byteLength_eq]

end

/-! ## Numbers -/

/-- The characters that may stand in a number. -/
def isNumeral (c : Char) : Bool :=
  c.isDigit || c ∈ ['+', '-', '.', 'e', 'E']

/-- Two texts that agree up to a character that cannot stand in a number. -/
abbrev AgreeUpToNonNumeral : List Char → List Char → Prop :=
  AgreeUpTo (isNumeral · = false)

/-- A reading with the length of what is left, in place of what it says. -/
def measured (reading : Reading) : Except Fault (Found × Nat) :=
  reading.map fun (found, rest) => (found, byteLength rest)

/-- Reads an exponent from its first digit on. -/
def readPower (negative : Bool) (significand : Nat) (exponent : Int) (down : Bool)
    (unsigned : List Char) : Reading :=
  match unsigned with
  | [] => .error (faultAt .endsInValue [])
  | first :: rest =>
    if first.isDigit then
      let (digits, after) := takeDigits (first :: rest)
      let (written, unused) := appendDigits greatestWrittenExponent 0 digits
      if unused.isEmpty then
        finishScaled negative significand
          (if down then exponent - written else exponent + written) after
      else if significand ≠ 0 ∧ ¬ down then
        .error ⟨.numberTooLarge, byteLength (unused.drop 1 ++ after)⟩
      else .ok (.floating negative ⟨0, Decimal.Binary64.leastExponent⟩, after)
    else .error (faultPast .badNumber (first :: rest) 1)

private theorem readExponent_unsigned {negative : Bool} {significand : Nat} {exponent : Int}
    {c : Char}
    {rest : List Char} (plus : c ≠ '+') (minus : c ≠ '-') :
    readExponent negative significand exponent (c :: rest) =
      readPower negative significand exponent false (c :: rest) := by
  unfold readExponent
  split
  next signs =>
    split at signs
    · next same => exact absurd (List.cons.inj same).1 plus
    · next same => exact absurd (List.cons.inj same).1 minus
    · cases signs
      rfl

private theorem readScale_unscaled {negative : Bool} {significand : Nat} {exponent : Int} {c : Char}
    {rest : List Char} (lower : c ≠ 'e') (upper : c ≠ 'E') :
    readScale negative significand exponent (c :: rest) =
      finishScaled negative significand exponent (c :: rest) := by
  simp [readScale, lower, upper]

/-- Reads what comes behind the digits of a whole number. -/
def readTail (negative : Bool) (value : Nat) (unused after : List Char) : Reading :=
  match after with
  | '.' :: fraction => readFraction negative value unused.length fraction
  | _ =>
    if unused.isEmpty ∧ after.head? ≠ some 'e' ∧ after.head? ≠ some 'E' then
      if ¬ negative then .ok (.integer value, after)
      else if value = 0 ∨ Nat.pow 2 63 < value then finishScaled true value 0 after
      else .ok (.integer (-value), after)
    else readScale negative value unused.length after

private theorem readTail_unpointed {negative : Bool} {value : Nat} {unused rest : List Char}
    {c : Char}
    (point : c ≠ '.') :
    readTail negative value unused (c :: rest) =
      if unused.isEmpty ∧ c ≠ 'e' ∧ c ≠ 'E' then
        if ¬ negative then .ok (.integer value, c :: rest)
        else if value = 0 ∨ Nat.pow 2 63 < value then finishScaled true value 0 (c :: rest)
        else .ok (.integer (-value), c :: rest)
      else readScale negative value unused.length (c :: rest) := by
  simp [readTail, point]

private theorem readUnsigned_digit {c : Char} (digit : c.isDigit = true) (negative : Bool)
    (rest : List Char) :
    readUnsigned negative (c :: rest) =
      if c = '0' ∧ 1 < (takeDigits (c :: rest)).1.length then .error (faultPast .badNumber rest 1)
      else
        let (value, unused) := appendDigits greatestSignificand 0 (takeDigits (c :: rest)).1
        readTail negative value unused (takeDigits (c :: rest)).2 := by
  unfold readUnsigned
  dsimp only
  rw [digit]
  rfl

section

variable {text other : List Char} (negative : Bool) (significand : Nat) (exponent : Int)

theorem AgreeUpTo.takeDigits (agree : AgreeUpToNonNumeral text other) :
    (takeDigits other).1 = (takeDigits text).1 ∧
      AgreeUpToNonNumeral (takeDigits text).2 (takeDigits other).2 := by
  unfold Secret.takeDigits
  induction agree with
  | @stop c _ _ stops same =>
    have notDigit : c.isDigit = false := by
      rw [isNumeral, Bool.or_eq_false_iff] at stops
      exact stops.1
    simp only [List.takeWhile_cons, List.dropWhile_cons, notDigit]
    exact ⟨rfl, .stop stops same⟩
  | next c agree ih =>
    by_cases digit : c.isDigit = true
    · simp only [List.takeWhile_cons, List.dropWhile_cons, digit, if_true]
      exact ⟨congrArg (c :: ·) ih.1, ih.2⟩
    · simp only [List.takeWhile_cons, List.dropWhile_cons, digit]
      exact ⟨rfl, .next c agree⟩

theorem finishScaled_of_same (same : byteLength text = byteLength other) :
    measured (finishScaled negative significand exponent other) =
      measured (finishScaled negative significand exponent text) := by
  unfold finishScaled
  cases scale? significand exponent with
  | none => simp [measured, Except.map, faultAt, same]
  | some magnitude => simp [measured, Except.map, same]

private theorem readPower_of_agree (down : Bool) (agree : AgreeUpToNonNumeral text other) :
    measured (readPower negative significand exponent down other) =
      measured (readPower negative significand exponent down text) := by
  have digits := agree.takeDigits
  have whole := agree.byteLength_eq
  obtain ⟨c, rest, otherRest, rfl, rfl⟩ := agree.exists_cons
  unfold readPower
  dsimp only
  by_cases digit : c.isDigit = true
  · have left := digits.2.byteLength_eq
    simp only [if_pos digit, digits.1]
    split
    · exact finishScaled_of_same negative significand _ left
    · split
      · simp [measured, Except.map, left]
      · simp [measured, Except.map, left]
  · simp [digit, measured, Except.map, faultPast, whole]

private theorem readExponent_of_agree (agree : AgreeUpToNonNumeral text other) :
    measured (readExponent negative significand exponent other) =
      measured (readExponent negative significand exponent text) := by
  have unsigned {text other : List Char} (down : Bool) (agree : AgreeUpToNonNumeral text other) :=
    readPower_of_agree negative significand exponent down agree
  cases agree with
  | @stop c _ _ stops same =>
    have plus : c ≠ '+' := by rintro rfl; contradiction
    have minus : c ≠ '-' := by rintro rfl; contradiction
    rw [readExponent_unsigned plus minus, readExponent_unsigned plus minus]
    exact unsigned false (.stop stops same)
  | next c agree =>
    by_cases plus : c = '+'
    · subst plus
      exact unsigned false agree
    · by_cases minus : c = '-'
      · subst minus
        exact unsigned true agree
      · rw [readExponent_unsigned plus minus, readExponent_unsigned plus minus]
        exact unsigned false (.next c agree)

private theorem readScale_of_agree (agree : AgreeUpToNonNumeral text other) :
    measured (readScale negative significand exponent other) =
      measured (readScale negative significand exponent text) := by
  have whole := agree.byteLength_eq
  cases agree with
  | @stop c _ _ stops same =>
    have lower : c ≠ 'e' := by rintro rfl; contradiction
    have upper : c ≠ 'E' := by rintro rfl; contradiction
    rw [readScale_unscaled lower upper, readScale_unscaled lower upper]
    exact finishScaled_of_same negative significand exponent whole
  | next c agree =>
    by_cases lower : c = 'e'
    · subst lower
      exact readExponent_of_agree negative significand exponent agree
    · by_cases upper : c = 'E'
      · subst upper
        exact readExponent_of_agree negative significand exponent agree
      · rw [readScale_unscaled lower upper, readScale_unscaled lower upper]
        exact finishScaled_of_same negative significand exponent whole

private theorem readFraction_of_agree (agree : AgreeUpToNonNumeral text other) :
    measured (readFraction negative significand exponent other) =
      measured (readFraction negative significand exponent text) := by
  obtain ⟨digits, behind⟩ := agree.takeDigits
  unfold readFraction
  generalize Secret.takeDigits text = taken at digits behind ⊢
  generalize Secret.takeDigits other = otherTaken at digits behind ⊢
  obtain ⟨_, after⟩ := taken
  obtain ⟨_, otherAfter⟩ := otherTaken
  obtain rfl := digits
  dsimp only at behind ⊢
  split
  · cases behind with
    | stop _ same => simp [measured, Except.map, faultPast, same]
    | next c agree => simp [measured, Except.map, faultPast, agree.byteLength_eq]
  · exact readScale_of_agree negative _ _ behind

private theorem readTail_of_agree (value : Nat) (unused : List Char)
    (agree : AgreeUpToNonNumeral text other) :
    measured (readTail negative value unused other) =
      measured (readTail negative value unused text) := by
  have same := agree.byteLength_eq
  have scaled := readScale_of_agree negative value unused.length agree
  have finished := finishScaled_of_same true value 0 same
  obtain ⟨c, rest, otherRest, rfl, rfl⟩ := agree.exists_cons
  by_cases point : c = '.'
  · subst point
    cases agree with
    | stop stops _ => contradiction
    | next _ agree => exact readFraction_of_agree negative _ _ agree
  · rw [readTail_unpointed point, readTail_unpointed point]
    split
    · split
      · simp [measured, Except.map, same]
      · split
        · exact finished
        · simp [measured, Except.map, same]
    · exact scaled

private theorem readUnsigned_of_agree (agree : AgreeUpToNonNumeral text other) :
    measured (readUnsigned negative other) = measured (readUnsigned negative text) := by
  obtain ⟨digits, behind⟩ := agree.takeDigits
  have whole := agree.byteLength_eq
  obtain ⟨c, rest, otherRest, rfl, rfl⟩ := agree.exists_cons
  have tails : byteLength rest = byteLength otherRest := by simpa using whole
  by_cases digit : c.isDigit = true
  · rw [readUnsigned_digit digit, readUnsigned_digit digit, digits]
    split
    · simp [measured, Except.map, faultPast, tails]
    · exact readTail_of_agree negative _ _ behind
  · simp [readUnsigned, digit, measured, Except.map, faultPast, whole]

theorem numberFault_of_agree (wanted : Wanted) (agree : AgreeUpToNonNumeral text other) :
    numberFault wanted negative other = numberFault wanted negative text := by
  have same := readUnsigned_of_agree negative agree
  unfold numberFault
  cases read : readUnsigned negative text with
  | error fault =>
    cases otherRead : readUnsigned negative other with
    | error otherFault => simpa [measured, read, otherRead, Except.map] using same
    | ok pair => simp [measured, read, otherRead, Except.map] at same
  | ok pair =>
    cases otherRead : readUnsigned negative other with
    | error otherFault => simp [measured, read, otherRead, Except.map] at same
    | ok otherPair =>
      simp only [measured, read, otherRead, Except.map, Except.ok.injEq, Prod.mk.injEq] at same
      simp only [faultAt, same]

end

end Splice.Secret
