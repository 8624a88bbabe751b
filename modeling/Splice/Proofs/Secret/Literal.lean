import Mathlib.Data.Bool.AllAny
import Splice.Proofs.Secret.FlatObject
import Splice.Proofs.Secret.Lookahead

/-! # Literals in a payload

A payload is cut into what comes before a literal and the literal with what comes behind it. Where
the literal may begin is told by the characters before it alone, also in a payload that is not well
formed. `Literal.Varies` relates two literals of one kind and one length, with the same text behind
them, and the lemmas say that whatever is read before a literal does not depend on it.
-/

namespace Splice.Secret

open Splice.Text

/-! ## Where a literal begins -/

/-- What the characters before a place of a payload leave open there. -/
inductive Place
  | outside
  | number
  | text
  | escape
  deriving DecidableEq

namespace Place

/-- The place behind one more character. -/
def next : Place → Char → Place
  | outside, c => if c = '\"' then text else if c = '-' ∨ c.isDigit then number else outside
  | number, c => if c = '\"' then text else if isNumeral c then number else outside
  | text, c => if c = '\"' then outside else if c = '\\' then escape else text
  | escape, _ => text

/-- The place behind some characters. -/
def after (place : Place) (front : List Char) : Place :=
  front.foldl next place

/-- No quote is open. -/
def IsSettled (place : Place) : Prop :=
  place = outside ∨ place = number

@[simp] theorem after_cons (place : Place) (c : Char) (front : List Char) :
    place.after (c :: front) = (place.next c).after front :=
  rfl

@[simp] theorem after_append (place : Place) (front back : List Char) :
    place.after (front ++ back) = (place.after front).after back :=
  List.foldl_append ..

theorem after_eq_self {place : Place} {front : List Char}
    (stays : ∀ c ∈ front, place.next c = place) : place.after front = place := by
  induction front with
  | nil => rfl
  | cons c front ih =>
    obtain ⟨head, tail⟩ := List.forall_mem_cons.mp stays
    rw [after_cons, head, ih tail]

theorem after_blanks {front : List Char} (blank : Blanks front) :
    outside.after front = outside := by
  apply after_eq_self
  have stays : ∀ c ∈ [' ', '\t', '\n', '\r'], outside.next c = outside :=
    List.all_iff_forall_prop.mp (by decide)
  exact fun c member => stays c (blank c member)

private theorem after_numerals {front : List Char} (numerals : ∀ c ∈ front, isNumeral c = true) :
    number.after front = number := by
  apply after_eq_self
  intro c member
  have notQuote : c ≠ '\"' := by
    rintro rfl
    exact absurd (numerals _ member) (by decide)
  rw [next, if_neg notQuote, if_pos (numerals c member)]

private theorem after_spelledUnit {unit : Nat} {digits : List Char}
    (spelled : SpellsUnit unit digits) :
    text.after digits = text := by
  apply after_eq_self
  have stays : ∀ c ∈ "0123456789abcdefABCDEF".toList, text.next c = text :=
    List.all_iff_forall_prop.mp (by decide)
  exact fun c member => stays c (spelled.subset member)

private theorem after_spelledChar {c : Char} {part : List Char} (spelled : SpellsChar c part) :
    text.after part = text := by
  cases spelled with
  | plain _ notQuote notBackslash =>
    rw [after_cons, next, if_neg notQuote, if_neg notBackslash]
    rfl
  | short _ => rfl
  | units spelled =>
    generalize utf16 c = units at spelled
    induction spelled with
    | nil => rfl
    | cons head _ ih =>
      rw [List.flatMap_cons, after_append, after_append]
      exact (congrArg (after · _) (after_spelledUnit head)).trans ih

private theorem after_spelledText {value body : List Char} (spelled : SpellsText value body) :
    text.after body = text := by
  obtain ⟨parts, spelled, rfl⟩ := spelled
  induction spelled with
  | nil => rfl
  | cons head _ ih => rw [List.flatten_cons, after_append, after_spelledChar head, ih]

theorem after_spelledQuoted {value quoted : List Char} (spelled : SpellsQuoted value quoted) :
    outside.after quoted = outside := by
  obtain ⟨body, spelled, rfl⟩ := spelled
  change text.after (body ++ ['\"']) = outside
  rw [after_append, after_spelledText spelled]
  rfl

private theorem quote_mem_of_settled {place : Place} (inside : place = text ∨ place = escape)
    {front : List Char} (settled : (place.after front).IsSettled) : '\"' ∈ front := by
  induction front generalizing place with
  | nil => rcases inside with rfl | rfl <;> rcases settled with ended | ended <;> cases ended
  | cons c front ih =>
    by_cases quote : c = '\"'
    · exact quote ▸ List.mem_cons_self
    · refine List.mem_cons_of_mem _ (ih ?_ settled)
      rcases inside with rfl | rfl
      · by_cases backslash : c = '\\' <;> simp [next, quote, backslash]
      · exact .inl rfl

end Place

private theorem SpellsChar.oneLine {c : Char} {part : List Char} (spelled : SpellsChar c part) :
    '\n' ∉ part := by
  cases spelled with
  | plain printable _ _ =>
    rw [List.mem_singleton]
    rintro rfl
    exact absurd printable (by decide)
  | @short letter _ isShort =>
    have letters : ∀ entry ∈ shortEscapes, entry.1 ≠ '\n' := by decide
    simp [(letters _ isShort).symm]
  | units spelled => exact fun member => absurd (subset_of_spelledUnits spelled member) (by decide)

private theorem SpellsText.oneLine {value body : List Char} (spelled : SpellsText value body) :
    '\n' ∉ body := by
  obtain ⟨parts, spelled, rfl⟩ := spelled
  induction spelled with
  | nil => exact List.not_mem_nil
  | cons head _ ih =>
    rw [List.flatten_cons, List.mem_append, not_or]
    exact ⟨head.oneLine, ih⟩

/-- The kinds of literals. A text may be cut off by the end of the payload. -/
inductive Literal
  | text
  | unfinished
  | number
  deriving DecidableEq

namespace Literal

/-- A literal may begin behind these characters: they leave no quote open, and a number does not
begin within another one. -/
def MayFollow (kind : Literal) (front : List Char) : Prop :=
  Place.outside.after front = .outside ∨
    Place.outside.after front = .number ∧ kind ≠ .number

/-- A number is written by its characters, from a digit or a sign on. -/
def SpellsNumber (text : List Char) : Prop :=
  (∃ c rest, text = c :: rest ∧ (c = '-' ∨ c.isDigit = true)) ∧ ∀ c ∈ text, isNumeral c = true

/-- Two texts that begin with a literal of the same kind and length, and are the same behind it. -/
inductive Varies : Literal → List Char → List Char → Prop
  | text {value otherValue body otherBody : List Char} (back : List Char) :
      SpellsText value body → SpellsText otherValue otherBody →
      byteLength body = byteLength otherBody →
      Varies text ('\"' :: (body ++ '\"' :: back)) ('\"' :: (otherBody ++ '\"' :: back))
  | unfinished {value otherValue body otherBody more otherMore : List Char} :
      SpellsText value (body ++ more) → SpellsText otherValue (otherBody ++ otherMore) →
      byteLength body = byteLength otherBody →
      Varies unfinished ('\"' :: body) ('\"' :: otherBody)
  | number {digits otherDigits : List Char} (back : List Char) :
      SpellsNumber digits → SpellsNumber otherDigits →
      byteLength digits = byteLength otherDigits →
      Varies number (digits ++ back) (otherDigits ++ back)

/-- A character that begins a literal. -/
def IsOpening (c : Char) : Prop :=
  c = '\"' ∨ c = '-' ∨ c.isDigit = true

instance (c : Char) : Decidable (IsOpening c) :=
  inferInstanceAs (Decidable (_ ∨ _))

theorem IsOpening.ne {c d : Char} (isOpening : IsOpening c) (closed : ¬ IsOpening d) : c ≠ d := by
  rintro rfl
  exact closed isOpening

theorem MayFollow.settled {kind : Literal} {front : List Char} (follows : kind.MayFollow front) :
    (Place.outside.after front).IsSettled :=
  follows.imp id And.left

theorem mayFollow_append {kind : Literal} {front : List Char}
    (closed : Place.outside.after front = .outside) (back : List Char) :
    kind.MayFollow (front ++ back) ↔ kind.MayFollow back := by
  rw [MayFollow, MayFollow, Place.after_append, closed]

namespace Varies

variable {kind : Literal} {rest other : List Char}

theorem byteLength_eq (varies : kind.Varies rest other) : byteLength rest = byteLength other := by
  cases varies with
  | text back _ _ same => simp [same]
  | unfinished _ _ same => simp [same]
  | number back _ _ same => simp [same]

theorem opening (varies : kind.Varies rest other) :
    ∃ c tail d otherTail,
      rest = c :: tail ∧ other = d :: otherTail ∧ IsOpening c ∧ IsOpening d := by
  cases varies with
  | text back _ _ _ => exact ⟨_, _, _, _, rfl, rfl, .inl rfl, .inl rfl⟩
  | unfinished _ _ _ => exact ⟨_, _, _, _, rfl, rfl, .inl rfl, .inl rfl⟩
  | number back digits otherDigits _ =>
    obtain ⟨⟨c, tail, rfl, first⟩, _⟩ := digits
    obtain ⟨⟨d, otherTail, rfl, otherFirst⟩, _⟩ := otherDigits
    exact ⟨_, _, _, _, rfl, rfl, .inr first, .inr otherFirst⟩

private theorem quote (varies : kind.Varies rest other) (isText : kind ≠ .number) :
    ∃ tail otherTail, rest = '\"' :: tail ∧ other = '\"' :: otherTail ∧
      byteLength tail = byteLength otherTail := by
  cases varies with
  | text back _ _ same => exact ⟨_, _, rfl, rfl, by simp [same]⟩
  | unfinished _ _ same => exact ⟨_, _, rfl, rfl, same⟩
  | number _ _ _ _ => contradiction

/-- A literal stands on one line. -/
theorem oneLine (varies : kind.Varies rest other) :
    ∃ literal otherLiteral back, rest = literal ++ back ∧ other = otherLiteral ++ back ∧
      '\n' ∉ literal ∧ '\n' ∉ otherLiteral ∧ byteLength literal = byteLength otherLiteral := by
  have quoted {body : List Char} (plain : '\n' ∉ body) : '\n' ∉ '\"' :: body ++ ['\"'] := by
    simp [plain]
  have numeral {digits : List Char} (spelled : SpellsNumber digits) : '\n' ∉ digits :=
    fun member => absurd (spelled.2 _ member) (by decide)
  cases varies with
  | @text _ _ body otherBody back spelled otherSpelled same =>
    refine ⟨'\"' :: body ++ ['\"'], '\"' :: otherBody ++ ['\"'], back, by simp, by simp,
      quoted spelled.oneLine, quoted otherSpelled.oneLine, by simp [same]⟩
  | @unfinished _ _ body otherBody _ _ spelled otherSpelled same =>
    have cut {body more value : List Char} (spelled : SpellsText value (body ++ more)) :
        '\n' ∉ '\"' :: body := by
      have plain : '\n' ∉ body := fun member => spelled.oneLine (List.mem_append_left more member)
      simp [plain]
    exact ⟨'\"' :: body, '\"' :: otherBody, [], by simp, by simp, cut spelled, cut otherSpelled,
      by simp [same]⟩
  | number back digits otherDigits same =>
    exact ⟨_, _, back, rfl, rfl, numeral digits, numeral otherDigits, same⟩

/-- Numbers do not begin with quotes. -/
theorem sign (varies : Varies .number rest other) :
    ∃ c tail d otherTail, rest = c :: tail ∧ other = d :: otherTail ∧ c ≠ '\"' ∧ d ≠ '\"' := by
  have notQuote {c : Char} (first : c = '-' ∨ c.isDigit = true) : c ≠ '\"' := by
    rintro rfl
    revert first
    decide
  cases varies with
  | number back digits otherDigits _ =>
    obtain ⟨⟨c, tail, rfl, first⟩, _⟩ := digits
    obtain ⟨⟨d, otherTail, rfl, otherFirst⟩, _⟩ := otherDigits
    exact ⟨_, _, _, _, rfl, rfl, notQuote first, notQuote otherFirst⟩

end Varies

end Literal

theorem skipBlanks_opening {c : Char} (isOpening : Literal.IsOpening c) (front rest : List Char) :
    skipBlanks (front ++ c :: rest) = skipBlanks front ++ c :: rest := by
  have notBlank : isJsonBlank c = false := by
    rw [Bool.eq_false_iff, Ne, isJsonBlank_iff]
    intro blank
    have closed : ∀ c ∈ [' ', '\t', '\n', '\r'], ¬ Literal.IsOpening c :=
      List.all_iff_forall_prop.mp (by decide)
    exact closed c blank isOpening
  obtain ⟨blanks, blank, whole⟩ := exists_blanks front
  cases left : skipBlanks front with
  | nil =>
    rw [left, List.append_nil] at whole
    rw [whole, skipBlanks_append blank, skipBlanks_cons notBlank, List.nil_append]
  | cons d tail =>
    rw [left] at whole
    have notBlank := (skipBlanks_eq_cons_iff.mp left).1
    rw [whole, List.append_assoc, skipBlanks_append blank, List.cons_append,
      skipBlanks_cons notBlank]

private theorem SpellsChar.quote_not_mem {c letter : Char} {more : List Char}
    (spelled : SpellsChar c ('\\' :: letter :: more)) : '\"' ∉ more := by
  generalize whole : '\\' :: letter :: more = part at spelled
  cases spelled with
  | plain _ _ _ => cases whole
  | short _ =>
    cases whole
    exact List.not_mem_nil
  | @units _ digits spelled =>
    have subset := subset_of_spelledUnits spelled
    rw [← whole, List.cons_subset, List.cons_subset] at subset
    exact fun member => absurd (subset.2.2 member) (by decide)

/-! ## Reading a text that is cut off -/

private theorem readHexUnit_of_short {digits : List Char}
    (subset : digits ⊆ "0123456789abcdefABCDEF".toList) (short : digits.length < 4) :
    readHexUnit digits = .error (faultAt .endsInText []) := by
  have bytes : byteLength digits = digits.length := by
    clear short
    induction digits with
    | nil => rfl
    | cons c digits ih =>
      have single : ∀ c ∈ "0123456789abcdefABCDEF".toList, c.utf8Size = 1 :=
        List.all_iff_forall_prop.mp (by decide)
      rw [List.cons_subset] at subset
      rw [byteLength_cons, single c subset.1, ih subset.2, List.length_cons, Nat.add_comm]
  have none : hexUnit? digits = none := by
    rw [Option.eq_none_iff_forall_ne_some]
    intro unit read
    obtain ⟨unit, rest, spelled, rfl⟩ := hexUnit?_eq_some_iff.mp read
    rw [List.length_append, spelled.length_eq] at short
    omega
  rw [readHexUnit, none]
  exact congrArg Except.error (if_pos (bytes ▸ short))

private theorem readHexUnit_unfinished {unit : Nat} {digits more : List Char}
    (spelled : SpellsUnit unit (digits ++ more)) (goesOn : more ≠ []) :
    readHexUnit digits = .error (faultAt .endsInText []) := by
  have length := spelled.length_eq
  have left := List.length_pos_iff.mpr goesOn
  rw [List.length_append] at length
  exact readHexUnit_of_short (List.append_subset.mp spelled.subset).1 (by omega)

private theorem readTrailingUnit_unfinished {unit : Nat} {digits cut more : List Char}
    (spelled : SpellsUnit unit digits) (whole : '\\' :: 'u' :: digits = cut ++ more)
    (goesOn : more ≠ []) : readTrailingUnit cut = .error (faultAt .endsInText []) := by
  rcases List.cons_eq_append_iff.mp whole with ⟨rfl, _⟩ | ⟨cut, rfl, behind⟩
  · rfl
  rcases List.cons_eq_append_iff.mp behind with ⟨rfl, _⟩ | ⟨cut, rfl, rfl⟩
  · rfl
  rw [readTrailingUnit, readHexUnit_unfinished spelled goesOn]
  rfl

private theorem readEscape_unfinished {c : Char} {escape more : List Char}
    (spelled : SpellsChar c ('\\' :: (escape ++ more))) (goesOn : more ≠ []) :
    readEscape escape = .error (faultAt .endsInText []) := by
  generalize whole : '\\' :: (escape ++ more) = part at spelled
  cases spelled with
  | plain _ _ notBackslash => exact absurd (List.cons.inj whole).1.symm notBackslash
  | short _ =>
    obtain ⟨rfl, _⟩ | ⟨_, rfl⟩ := List.append_eq_singleton_iff.mp (List.cons.inj whole).2
    · rfl
    · contradiction
  | units spelled =>
    rcases utf16_cases c with ⟨unit, units, _, _, _⟩ |
      ⟨leading, trailing, units, _, isLeading, _⟩
    · rw [units] at spelled
      obtain ⟨digits, _, first, none, rfl⟩ := List.forall₂_cons_left_iff.mp spelled
      cases none
      replace whole : 'u' :: digits = escape ++ more := by simpa using whole.symm
      rcases List.cons_eq_append_iff.mp whole with ⟨rfl, _⟩ | ⟨cut, rfl, rfl⟩
      · rfl
      rw [readEscape, readHexUnit_unfinished first goesOn]
      rfl
    · rw [units] at spelled
      obtain ⟨digits, _, first, further, rfl⟩ := List.forall₂_cons_left_iff.mp spelled
      obtain ⟨otherDigits, _, second, none, rfl⟩ := List.forall₂_cons_left_iff.mp further
      cases none
      replace whole : 'u' :: (digits ++ '\\' :: 'u' :: otherDigits) = escape ++ more := by
        simpa using whole.symm
      rcases List.cons_eq_append_iff.mp whole with ⟨rfl, _⟩ | ⟨cut, rfl, behind⟩
      · rfl
      have inSecond {tail : List Char} (cutBehind : cut = digits ++ tail)
          (left : '\\' :: 'u' :: otherDigits = tail ++ more) :
          readEscape ('u' :: cut) = .error (faultAt .endsInText []) := by
        rw [cutBehind, readEscape_leading first isLeading,
          readTrailingUnit_unfinished second left goesOn]
        rfl
      rcases List.append_eq_append_iff.mp behind with ⟨tail, cutBehind, left⟩ | ⟨gap, rfl, rest⟩
      · exact inSecond cutBehind left
      · by_cases ended : gap = []
        · subst ended
          exact @inSecond [] (by simp) rest.symm
        · rw [readEscape, readHexUnit_unfinished first ended]
          rfl

private theorem SpellsChar.backslash {c d : Char} {more : List Char}
    (spelled : SpellsChar c (d :: more))
    (goesOn : more ≠ []) : d = '\\' := by
  generalize whole : d :: more = part at spelled
  cases spelled with
  | plain _ _ _ => exact absurd (List.cons.inj whole).2 goesOn
  | short _ => exact (List.cons.inj whole).1
  | units spelled =>
    generalize utf16 c = units at spelled
    cases spelled with
    | nil => cases whole
    | cons _ _ => exact (List.cons.inj whole).1

/-- A text that is cut off before its closing quote ends in a text. -/
theorem readText_unfinished {value body more : List Char}
    (spelled : SpellsText value (body ++ more)) (read : List Char) :
    readText read 0 body = .error (faultAt .endsInText []) := by
  obtain ⟨parts, spelled, whole⟩ := spelled
  induction spelled generalizing body read with
  | nil =>
    obtain ⟨rfl, _⟩ := List.append_eq_nil_iff.mp whole
    rfl
  | @cons c part _ parts head _ ih =>
    rw [List.flatten_cons] at whole
    rcases List.append_eq_append_iff.mp whole with ⟨gap, rfl, rest⟩ | ⟨gap, rfl, rest⟩
    · cases body with
      | nil => rfl
      | cons d body =>
        by_cases ended : gap = []
        · subst ended
          rw [List.append_nil] at head
          rw [← List.append_nil (d :: body), readText_spelled head]
          rfl
        · obtain rfl := head.backslash (by simp [ended])
          rw [readText, if_neg (by decide), if_pos rfl, readEscape_unfinished head ended]
    · rw [readText_spelled head]
      exact ih _ rest.symm

/-! ## Reading before a literal -/

section

variable {kind : Literal} {rest other : List Char}

/-- An escape in a text that is closed before a literal is spelled there, or faulted alike. -/
private theorem readEscape_before (letter : Char) {front : List Char}
    (closes : (Place.text.after front).IsSettled) (same : byteLength rest = byteLength other) :
    (∃ fault, readEscape (letter :: (front ++ rest)) = .error fault ∧
      readEscape (letter :: (front ++ other)) = .error fault) ∨
    ∃ meant escape behind, SpellsChar meant ('\\' :: escape) ∧
      letter :: front = escape ++ behind := by
  have quoted := Place.quote_mem_of_settled (.inl rfl) closes
  have alike := readEscape_of_agree letter (.of_mem quoted rfl same)
  cases escapeRead : readEscape (letter :: (front ++ rest)) with
  | error fault =>
    rw [escapeRead] at alike
    exact .inl ⟨fault, rfl, alike⟩
  | ok pair =>
    obtain ⟨escape, left, spelled, _, whole⟩ := exists_spelled_of_readEscape escapeRead
    rw [← List.cons_append] at whole
    rcases List.append_eq_append_iff.mp whole with ⟨gap, rfl, _⟩ | ⟨behind, cut, _⟩
    · -- An escape holds no quote behind its first character.
      exact absurd (List.mem_append_left gap quoted) spelled.quote_not_mem
    · exact .inr ⟨_, escape, behind, spelled, cut⟩

private theorem readText_before {front : List Char} (read : List Char)
    (closes : (Place.text.after front).IsSettled) (same : byteLength rest = byteLength other) :
    (∃ fault, readText read 0 (front ++ rest) = .error fault ∧
      readText read 0 (front ++ other) = .error fault) ∨
    ∃ value behind, readText read 0 (front ++ rest) = .ok (value, behind ++ rest) ∧
      readText read 0 (front ++ other) = .ok (value, behind ++ other) := by
  -- An escape is read as a whole, so that the induction is on the length.
  induction len : front.length using Nat.strong_induction_on generalizing front read with
  | _ n ih =>
    subst len
    cases front with
    | nil => rcases closes with closed | closed <;> cases closed
    | cons c front =>
      by_cases quote : c = '\"'
      · subst quote
        exact .inr ⟨read.reverse, front, by simp [readText], by simp [readText]⟩
      by_cases backslash : c = '\\'
      · subst backslash
        have escaped : (Place.escape.after front).IsSettled := closes
        cases front with
        | nil => rcases escaped with ended | ended <;> cases ended
        | cons letter front =>
          have behindLetter : (Place.text.after front).IsSettled := escaped
          rcases readEscape_before letter behindLetter same with
            ⟨fault, escapeRead, otherEscapeRead⟩ | ⟨meant, escape, gap, spelled, cut⟩
          · exact .inl ⟨fault, by simp [readText, escapeRead], by simp [readText, otherEscapeRead]⟩
          · have whole : '\\' :: letter :: front = '\\' :: escape ++ gap :=
              congrArg ('\\' :: ·) cut
            have shorter : gap.length < ('\\' :: letter :: front).length := by
              simp only [whole, List.length_append, List.length_cons]
              omega
            rw [whole, Place.after_append, Place.after_spelledChar spelled] at closes
            rw [whole, List.append_assoc, List.append_assoc, readText_spelled spelled,
              readText_spelled spelled]
            exact ih _ shorter (meant :: read) closes rfl
      by_cases raw : c.toNat < 32
      · refine .inl ⟨faultAt .rawControl (front ++ rest), ?_, ?_⟩
        · simp [readText, quote, backslash, raw]
        · simp [readText, quote, backslash, raw, faultAt, same]
      · have plain : (Place.text.after front).IsSettled := by
          simpa [Place.next, quote, backslash] using closes
        have shorter : front.length < (c :: front).length := Nat.lt_succ_self _
        simp only [List.cons_append, readText, if_neg quote, if_neg backslash, if_neg raw]
        exact ih _ shorter (c :: read) plain rfl

/-- A text that is closed before a literal is spelled there, or faulted alike. -/
theorem exists_spelled_before {front : List Char} (closes : (Place.text.after front).IsSettled)
    (same : byteLength rest = byteLength other) :
    (∃ fault, readText [] 0 (front ++ rest) = .error fault ∧
      readText [] 0 (front ++ other) = .error fault) ∨
    ∃ value body behind, SpellsText value body ∧ front = body ++ '\"' :: behind := by
  refine (readText_before [] closes same).imp id ?_
  rintro ⟨value, behind, read, _⟩
  obtain ⟨body, spelled, whole⟩ := readText_eq_ok_iff.mp read
  rw [← List.cons_append, ← List.append_assoc] at whole
  exact ⟨value, body, behind, spelled, List.append_cancel_right whole⟩

/-- A word is read alike before every literal, since no letter begins one. -/
theorem readWord_before (varies : kind.Varies rest other) {letters : List Char}
    (plain : ∀ letter ∈ letters, ¬ Literal.IsOpening letter) (front : List Char) :
    (∃ fault, readWord letters (front ++ rest) = .error fault ∧
      readWord letters (front ++ other) = .error fault) ∨
    ∃ behind, front = letters ++ behind := by
  induction letters generalizing front with
  | nil => exact .inr ⟨front, rfl⟩
  | cons letter letters ih =>
    obtain ⟨notOpening, others⟩ := List.forall_mem_cons.mp plain
    have same := varies.byteLength_eq
    cases front with
    | nil =>
      obtain ⟨c, tail, d, otherTail, rfl, rfl, isOpening, otherOpening⟩ := varies.opening
      refine .inl ⟨faultPast .wordExpected (c :: tail) 1, ?_, ?_⟩
      · simp [readWord, isOpening.ne notOpening]
      · simp [readWord, otherOpening.ne notOpening, faultPast, same]
    | cons c front =>
      by_cases agrees : c = letter
      · subst agrees
        rcases ih others front with ⟨fault, read, otherRead⟩ | ⟨behind, rfl⟩
        · exact .inl ⟨fault, by simpa [readWord] using read, by simpa [readWord] using otherRead⟩
        · exact .inr ⟨behind, rfl⟩
      · refine .inl ⟨faultPast .wordExpected (c :: (front ++ rest)) 1, ?_, ?_⟩
        · simp [readWord, agrees]
        · simp [readWord, agrees, faultPast, same]

private theorem wordFault_before (varies : kind.Varies rest other) {letters : List Char}
    (plain : ∀ letter ∈ letters, ¬ Literal.IsOpening letter) (wanted : Wanted) (found : Found)
    (front : List Char) :
    wordFault wanted found letters (front ++ other) =
      wordFault wanted found letters (front ++ rest) := by
  rcases readWord_before varies plain front with ⟨fault, read, otherRead⟩ | ⟨behind, rfl⟩
  · simp only [wordFault, read, otherRead]
  · have read (rest : List Char) : readWord letters (letters ++ behind ++ rest) =
        .ok (behind ++ rest) := readWord_eq_ok_iff.mpr (List.append_assoc ..)
    simp only [wordFault, read, faultAt, byteLength_append, varies.byteLength_eq]

/-- A number that begins before a literal ends before it. -/
private theorem numberFault_before (varies : kind.Varies rest other) {front : List Char}
    (follows : Place.number.after front = .outside ∨
      Place.number.after front = .number ∧ kind ≠ .number)
    (wanted : Wanted) (negative : Bool) :
    numberFault wanted negative (front ++ other) = numberFault wanted negative (front ++ rest) := by
  apply numberFault_of_agree
  by_cases numerals : ∀ c ∈ front, isNumeral c = true
  · have isText : kind ≠ .number := by
      rcases follows with ended | ⟨_, isText⟩
      · rw [Place.after_numerals numerals] at ended
        contradiction
      · exact isText
    obtain ⟨tail, otherTail, rfl, rfl, same⟩ := varies.quote isText
    exact .append front (.stop (by decide) same)
  · push Not at numerals
    obtain ⟨c, member, stops⟩ := numerals
    exact .of_mem member (Bool.eq_false_iff.mpr stops) varies.byteLength_eq

private theorem shapeFault_other {c : Char} (other : c ∉ ['n', 't', 'f', '-', '\"', '[', '{'])
    (wanted : Wanted) (rest : List Char) :
    shapeFault wanted (c :: rest) =
      if c.isDigit then numberFault wanted false (c :: rest)
      else faultPast .valueExpected (c :: rest) 1 := by
  simp only [List.mem_cons, List.not_mem_nil, or_false, not_or] at other
  simp [shapeFault, other]

/-- A value of the wrong shape that begins before a literal is faulted alike. -/
theorem shapeFault_before (varies : kind.Varies rest other) {c : Char} {front : List Char}
    (follows : kind.MayFollow (c :: front)) (wanted : Wanted) :
    shapeFault wanted (c :: (front ++ other)) = shapeFault wanted (c :: (front ++ rest)) := by
  have same := varies.byteLength_eq
  by_cases named : c ∈ ['n', 't', 'f', '-', '\"', '[', '{']
  · simp only [List.mem_cons, List.not_mem_nil, or_false] at named
    obtain rfl | rfl | rfl | rfl | rfl | rfl | rfl := named
    · exact wordFault_before varies (List.all_iff_forall_prop.mp (by decide)) _ _ front
    · exact wordFault_before varies (List.all_iff_forall_prop.mp (by decide)) _ _ front
    · exact wordFault_before varies (List.all_iff_forall_prop.mp (by decide)) _ _ front
    · exact numberFault_before varies follows wanted true
    · have closes : (Place.text.after front).IsSettled := follows.settled
      rcases exists_spelled_before closes same with ⟨fault, read, otherRead⟩ |
        ⟨value, body, behind, spelled, rfl⟩
      · simp only [shapeFault, read, otherRead]
      · simp only [shapeFault, List.append_assoc, List.cons_append, readText_append spelled,
          faultAt, byteLength_append, same]
    · simp [shapeFault, faultAt, same]
    · simp [shapeFault, faultAt, same]
  · rw [shapeFault_other named, shapeFault_other named]
    split
    · next digit =>
      have notQuote : c ≠ '\"' := by
        rintro rfl
        contradiction
      have numeral : isNumeral c = true := by
        rw [isNumeral, digit, Bool.true_or]
      have begins : Place.outside.next c = Place.number.next c := by
        rw [Place.next, Place.next, if_neg notQuote, if_neg notQuote, if_pos (.inr digit),
          if_pos numeral]
      rw [Literal.MayFollow, Place.after_cons, begins, ← Place.after_cons] at follows
      exact numberFault_before varies follows wanted false
    · simp [faultPast, same]

end

end Splice.Secret
