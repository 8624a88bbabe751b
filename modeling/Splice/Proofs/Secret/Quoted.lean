import Mathlib
import Splice.Secret.Reader

/-! # Texts between quotes

`SpellsChar` says how a character can be written between the quotes of a JSON text: as it is, by a
short escape, or by the hexadecimal digits of its UTF-16 units. The main statement,
`readText_eq_ok_iff`, says that reading accepts what is spelled in this way up to the closing quote,
and nothing else. A lone surrogate spells nothing, since no character has it as its only unit.
-/

namespace Splice.Secret

/-! ## The grammar -/

/-- A hexadecimal digit and its value. -/
def IsHexDigit (digit : Char) (value : Nat) : Prop :=
  "0123456789abcdef".toList[value]? = some digit ∨ "0123456789ABCDEF".toList[value]? = some digit

/-- Four hexadecimal digits spell a unit of 16 bits. -/
inductive SpellsUnit : Nat → List Char → Prop
  | digits {a b c d : Char} {p q r s : Nat} :
      IsHexDigit a p → IsHexDigit b q → IsHexDigit c r → IsHexDigit d s →
      SpellsUnit (p * 0x1000 + q * 0x100 + r * 0x10 + s) [a, b, c, d]

/-- The UTF-16 units of a character. -/
def utf16 (c : Char) : List Nat :=
  if c.toNat < 0x10000 then [c.toNat]
  else [0xD800 + (c.toNat - 0x10000) / 0x400, 0xDC00 + (c.toNat - 0x10000) % 0x400]

/-- The characters that have a short escape, each with the letter of it. -/
def shortEscapes : List (Char × Char) :=
  [('\"', '\"'), ('\\', '\\'), ('/', '/'), ('b', '\x08'), ('f', '\x0c'), ('n', '\n'), ('r', '\r'),
    ('t', '\t')]

/-- How a character can be written between quotes. -/
inductive SpellsChar : Char → List Char → Prop
  | plain {c : Char} : 0x20 ≤ c.toNat → c ≠ '\"' → c ≠ '\\' → SpellsChar c [c]
  | short {letter c : Char} : (letter, c) ∈ shortEscapes → SpellsChar c ['\\', letter]
  | units {c : Char} {digits : List (List Char)} : List.Forall₂ SpellsUnit (utf16 c) digits →
      SpellsChar c (digits.flatMap (['\\', 'u'] ++ ·))

/-- A stretch between quotes spells a text by its characters. -/
def SpellsText (value body : List Char) : Prop :=
  ∃ parts, List.Forall₂ SpellsChar value parts ∧ body = parts.flatten

/-! ## Readings in steps -/

theorem bind_eq_ok_iff {α β : Type} {first : Except Fault α} {next : α → Except Fault β}
    {result : β} :
    (first >>= next) = .ok result ↔ ∃ value, first = .ok value ∧ next value = .ok result := by
  cases first with
  | error fault => simp [bind, Except.bind]
  | ok value => simp [bind, Except.bind]

/-! ## Units -/

instance (digit : Char) (value : Nat) : Decidable (IsHexDigit digit value) :=
  inferInstanceAs (Decidable (_ ∨ _))

private theorem hexValue?_of_isHexDigit {digit : Char} {value : Nat}
    (isDigit : IsHexDigit digit value) :
    hexValue? digit = some value := by
  have table : ∀ entry ∈ "0123456789abcdef".toList.zipIdx ++ "0123456789ABCDEF".toList.zipIdx,
      hexValue? entry.1 = some entry.2 := by decide
  apply table (digit, value)
  rw [List.mem_append, List.mk_mem_zipIdx_iff_getElem?, List.mk_mem_zipIdx_iff_getElem?]
  exact isDigit

private theorem toNat_lt_of_hexValue? {digit : Char} {value : Nat}
    (read : hexValue? digit = some value) :
    digit.toNat < 128 := by
  unfold hexValue? at read
  simp only [Char.le_def, UInt32.le_iff_toNat_le] at read
  split at read
  · next range => exact Nat.lt_of_le_of_lt range.2 (by decide)
  · split at read
    · next range => exact Nat.lt_of_le_of_lt range.2 (by decide)
    · split at read
      · next range => exact Nat.lt_of_le_of_lt range.2 (by decide)
      · contradiction

private theorem hexValue?_eq_some_iff {digit : Char} {value : Nat} :
    hexValue? digit = some value ↔ IsHexDigit digit value := by
  refine ⟨fun read => ?_, hexValue?_of_isHexDigit⟩
  have table : ∀ code < 128, ∀ value ∈ hexValue? (Char.ofNat code),
      IsHexDigit (Char.ofNat code) value := by decide +kernel
  have found := table digit.toNat (toNat_lt_of_hexValue? read) value
  rw [Char.ofNat_toNat] at found
  exact found read

private theorem IsHexDigit.value_lt {digit : Char} {value : Nat}
    (isDigit : IsHexDigit digit value) :
    value < 16 := by
  rcases isDigit with found | found <;>
    exact (List.getElem?_eq_some_iff.mp found).1

theorem SpellsUnit.length_eq {unit : Nat} {digits : List Char} (spelled : SpellsUnit unit digits) :
    digits.length = 4 := by
  cases spelled
  rfl

private theorem SpellsUnit.lt {unit : Nat} {digits : List Char} (spelled : SpellsUnit unit digits) :
    unit < 0x10000 := by
  cases spelled with
  | digits first second third fourth =>
    have := first.value_lt
    have := second.value_lt
    have := third.value_lt
    have := fourth.value_lt
    omega

theorem hexUnit?_eq_some_iff {text : List Char} {unit : Nat} :
    hexUnit? text = some unit ↔ ∃ digits rest, SpellsUnit unit digits ∧ text = digits ++ rest := by
  constructor
  · intro read
    unfold hexUnit? at read
    split at read
    · next a b c d rest =>
      simp only [bind, pure, Option.bind_eq_some_iff, hexValue?_eq_some_iff,
        Option.some.injEq] at read
      obtain ⟨p, first, q, second, r, third, s, fourth, rfl⟩ := read
      have value : ((p * 16 + q) * 16 + r) * 16 + s = p * 0x1000 + q * 0x100 + r * 0x10 + s := by
        omega
      rw [value]
      exact ⟨[a, b, c, d], rest, .digits first second third fourth, rfl⟩
    · contradiction
  · rintro ⟨digits, rest, ⟨first, second, third, fourth⟩, rfl⟩
    simp only [hexUnit?, List.cons_append, hexValue?_of_isHexDigit first,
      hexValue?_of_isHexDigit second, hexValue?_of_isHexDigit third,
      hexValue?_of_isHexDigit fourth, bind, pure, Option.bind_some, Option.some.injEq]
    omega

theorem readHexUnit_eq_ok_iff {text : List Char} {unit : Nat} :
    readHexUnit text = .ok unit ↔
      ∃ digits rest, SpellsUnit unit digits ∧ text = digits ++ rest := by
  rw [← hexUnit?_eq_some_iff, readHexUnit]
  cases hexUnit? text <;> simp

/-! ## Surrogates -/

private theorem isTrailingSurrogate_of_leading {unit : Nat}
    (isLeading : isLeadingSurrogate unit = true) :
    isTrailingSurrogate unit = false := by
  simp only [isLeadingSurrogate, isTrailingSurrogate, Bool.and_eq_true, Bool.and_eq_false_iff,
    decide_eq_true_eq, decide_eq_false_iff_not] at isLeading ⊢
  omega

private theorem utf16_of_lt {unit : Nat} (bounded : unit < 0x10000)
    (notLeading : isLeadingSurrogate unit = false)
    (notTrailing : isTrailingSurrogate unit = false) : utf16 (Char.ofNat unit) = [unit] := by
  simp only [isLeadingSurrogate, isTrailingSurrogate, Bool.and_eq_false_iff,
    decide_eq_false_iff_not] at notLeading notTrailing
  have valid : unit.isValidChar := by
    unfold Nat.isValidChar
    omega
  rw [utf16, Char.toNat_ofNat, if_pos valid, if_pos bounded]

private theorem utf16_of_surrogates {leading trailing : Nat}
    (isLeading : isLeadingSurrogate leading = true)
    (isTrailing : isTrailingSurrogate trailing = true) :
    utf16 (Char.ofNat ((leading - 0xD800) * 0x400 + (trailing - 0xDC00) + 0x10000)) =
      [leading, trailing] := by
  simp only [isLeadingSurrogate, isTrailingSurrogate, Bool.and_eq_true, decide_eq_true_eq]
    at isLeading isTrailing
  have valid : ((leading - 0xD800) * 0x400 + (trailing - 0xDC00) + 0x10000).isValidChar := by
    unfold Nat.isValidChar
    omega
  have large : ¬ (leading - 0xD800) * 0x400 + (trailing - 0xDC00) + 0x10000 < 0x10000 := by omega
  rw [utf16, Char.toNat_ofNat, if_pos valid, if_neg large]
  simp only [List.cons.injEq, and_true]
  constructor <;> omega

/-- The units of a character are one that is no surrogate, or a pair of surrogates. -/
theorem utf16_cases (c : Char) :
    (∃ unit, utf16 c = [unit] ∧ c = Char.ofNat unit ∧
      isLeadingSurrogate unit = false ∧ isTrailingSurrogate unit = false) ∨
    (∃ leading trailing, utf16 c = [leading, trailing] ∧
      c = Char.ofNat ((leading - 0xD800) * 0x400 + (trailing - 0xDC00) + 0x10000) ∧
      isLeadingSurrogate leading = true ∧ isTrailingSurrogate trailing = true) := by
  have valid : c.toNat.isValidChar := c.valid
  have same := Char.ofNat_toNat c
  unfold Nat.isValidChar at valid
  simp only [isLeadingSurrogate, isTrailingSurrogate, Bool.and_eq_false_iff, Bool.and_eq_true,
    decide_eq_false_iff_not, decide_eq_true_eq]
  unfold utf16
  split
  · exact .inl ⟨_, rfl, same.symm, by omega, by omega⟩
  · refine .inr ⟨_, _, rfl, ?_, by omega, by omega⟩
    have code : (0xD800 + (c.toNat - 0x10000) / 0x400 - 0xD800) * 0x400 +
        (0xDC00 + (c.toNat - 0x10000) % 0x400 - 0xDC00) + 0x10000 = c.toNat := by omega
    rw [code, same]

/-! ## Escapes -/

private theorem readTrailingUnit_eq_ok_iff {text : List Char} {unit : Nat} :
    readTrailingUnit text = .ok unit ↔ isTrailingSurrogate unit = true ∧
      ∃ digits rest, SpellsUnit unit digits ∧ text = '\\' :: 'u' :: digits ++ rest := by
  constructor
  · intro read
    unfold readTrailingUnit at read
    split at read
    · contradiction
    · contradiction
    · next rest =>
      obtain ⟨found, unitRead, read⟩ := bind_eq_ok_iff.mp read
      split at read
      · next trailing =>
        cases read
        obtain ⟨digits, more, spelled, rfl⟩ := readHexUnit_eq_ok_iff.mp unitRead
        exact ⟨trailing, digits, more, spelled, rfl⟩
      · contradiction
    · contradiction
    · contradiction
  · rintro ⟨trailing, digits, rest, spelled, rfl⟩
    have read := readHexUnit_eq_ok_iff.mpr ⟨digits, rest, spelled, rfl⟩
    simp [readTrailingUnit, read, trailing, bind, Except.bind]

private theorem shortEscape?_eq_some_iff {letter c : Char} :
    shortEscape? letter = some c ↔ (letter, c) ∈ shortEscapes := by
  constructor
  · intro escaped
    unfold shortEscape? at escaped
    split at escaped <;> cases escaped <;> decide
  · intro member
    have table : ∀ entry ∈ shortEscapes, shortEscape? entry.1 = some entry.2 := by decide
    exact table (letter, c) member

theorem readEscape_leading {unit : Nat} {digits : List Char} (spelled : SpellsUnit unit digits)
    (isLeading : isLeadingSurrogate unit = true) (rest : List Char) :
    readEscape ('u' :: (digits ++ rest)) = (readTrailingUnit rest).map fun trailing =>
      (Char.ofNat ((unit - 0xD800) * 0x400 + (trailing - 0xDC00) + 0x10000), 11) := by
  have read := readHexUnit_eq_ok_iff.mpr ⟨digits, rest, spelled, rfl⟩
  have dropped : (digits ++ rest).drop 4 = rest := List.drop_left' spelled.length_eq
  simp only [readEscape, read, dropped, isTrailingSurrogate_of_leading isLeading, isLeading, bind,
    Except.bind]
  cases readTrailingUnit rest <;> rfl

private theorem readEscape_append {c : Char} {escape : List Char}
    (spelled : SpellsChar c ('\\' :: escape))
    (rest : List Char) : readEscape (escape ++ rest) = .ok (c, escape.length) := by
  generalize whole : '\\' :: escape = stretch at spelled
  cases spelled with
  | plain _ _ notBackslash =>
    cases whole
    contradiction
  | @short letter _ isShort =>
    cases whole
    have notUnit : letter ≠ 'u' := by
      rintro rfl
      revert isShort
      simp [shortEscapes]
    unfold readEscape
    split
    · contradiction
    · next same => exact absurd (List.cons.inj same).1 notUnit
    · next same =>
      obtain ⟨rfl, _⟩ := List.cons.inj same
      rw [shortEscape?_eq_some_iff.mpr isShort]
      rfl
  | units spelled =>
    rcases utf16_cases c with ⟨unit, units, code, notLeading, notTrailing⟩ |
      ⟨leading, trailing, units, code, isLeading, isTrailing⟩
    · rw [units] at spelled
      obtain ⟨digits, _, first, none, rfl⟩ := List.forall₂_cons_left_iff.mp spelled
      cases none
      obtain rfl : escape = 'u' :: digits := by simpa using whole
      have read := readHexUnit_eq_ok_iff.mpr ⟨digits, rest, first, rfl⟩
      simp [readEscape, read, notLeading, notTrailing, first.length_eq, ← code, bind, Except.bind,
        pure, Except.pure]
    · rw [units] at spelled
      obtain ⟨digits, _, first, more, rfl⟩ := List.forall₂_cons_left_iff.mp spelled
      obtain ⟨otherDigits, _, second, none, rfl⟩ := List.forall₂_cons_left_iff.mp more
      cases none
      obtain rfl : escape = 'u' :: digits ++ '\\' :: 'u' :: otherDigits := by simpa using whole
      have readOther := readTrailingUnit_eq_ok_iff.mpr
        ⟨isTrailing, otherDigits, rest, second, rfl⟩
      have regrouped : 'u' :: digits ++ '\\' :: 'u' :: otherDigits ++ rest =
          'u' :: (digits ++ ('\\' :: 'u' :: otherDigits ++ rest)) := by simp
      rw [regrouped, readEscape_leading first isLeading, readOther, Except.map, ← code]
      simp [first.length_eq, second.length_eq]

private theorem SpellsChar.of_unit {unit : Nat} {digits : List Char}
    (spelled : SpellsUnit unit digits)
    (notLeading : isLeadingSurrogate unit = false)
    (notTrailing : isTrailingSurrogate unit = false) :
    SpellsChar (Char.ofNat unit) ('\\' :: 'u' :: digits) := by
  have units : List.Forall₂ SpellsUnit (utf16 (Char.ofNat unit)) [digits] := by
    rw [utf16_of_lt spelled.lt notLeading notTrailing]
    exact .cons spelled .nil
  simpa using SpellsChar.units units

private theorem SpellsChar.of_surrogates {leading trailing : Nat} {digits otherDigits : List Char}
    (spelled : SpellsUnit leading digits) (otherSpelled : SpellsUnit trailing otherDigits)
    (isLeading : isLeadingSurrogate leading = true)
    (isTrailing : isTrailingSurrogate trailing = true) :
    SpellsChar (Char.ofNat ((leading - 0xD800) * 0x400 + (trailing - 0xDC00) + 0x10000))
      ('\\' :: 'u' :: digits ++ '\\' :: 'u' :: otherDigits) := by
  have units : List.Forall₂ SpellsUnit
      (utf16 (Char.ofNat ((leading - 0xD800) * 0x400 + (trailing - 0xDC00) + 0x10000)))
      [digits, otherDigits] := by
    rw [utf16_of_surrogates isLeading isTrailing]
    exact .cons spelled (.cons otherSpelled .nil)
  simpa using SpellsChar.units units

/-- Every escape that is read spells the character that it is read as. -/
theorem exists_spelled_of_readEscape {text : List Char} {c : Char} {width : Nat}
    (read : readEscape text = .ok (c, width)) :
    ∃ escape rest, SpellsChar c ('\\' :: escape) ∧ escape.length = width ∧
      text = escape ++ rest := by
  unfold readEscape at read
  split at read
  · contradiction
  · next rest =>
    obtain ⟨unit, first, read⟩ := bind_eq_ok_iff.mp read
    obtain ⟨digits, more, spelled, rfl⟩ := readHexUnit_eq_ok_iff.mp first
    have dropped : (digits ++ more).drop 4 = more := List.drop_left' spelled.length_eq
    rw [dropped] at read
    split at read
    · contradiction
    · next notTrailing =>
      rw [Bool.not_eq_true] at notTrailing
      split at read
      · next isLeading =>
        obtain ⟨trailing, second, ended⟩ := bind_eq_ok_iff.mp read
        simp only [pure, Except.pure, Except.ok.injEq, Prod.mk.injEq] at ended
        obtain ⟨rfl, rfl⟩ := ended
        obtain ⟨isTrailing, otherDigits, tail, otherSpelled, rfl⟩ :=
          readTrailingUnit_eq_ok_iff.mp second
        refine ⟨'u' :: digits ++ '\\' :: 'u' :: otherDigits, tail,
          .of_surrogates spelled otherSpelled isLeading isTrailing, ?_, by simp⟩
        simp [spelled.length_eq, otherSpelled.length_eq]
      · next notLeading =>
        rw [Bool.not_eq_true] at notLeading
        simp only [pure, Except.pure, Except.ok.injEq, Prod.mk.injEq] at read
        obtain ⟨rfl, rfl⟩ := read
        exact ⟨'u' :: digits, more, .of_unit spelled notLeading notTrailing,
          congrArg (· + 1) spelled.length_eq, rfl⟩
  · next letter rest _ =>
    split at read
    · next meant escaped =>
      cases read
      exact ⟨[letter], rest, .short (shortEscape?_eq_some_iff.mp escaped), rfl, rfl⟩
    · contradiction

/-! ## Texts -/

private theorem readText_skip (read : List Char) (skip : Nat) (text : List Char) :
    readText read skip text = readText read 0 (text.drop skip) := by
  induction text generalizing skip with
  | nil => cases skip <;> simp [readText]
  | cons c rest ih =>
    cases skip with
    | zero => rfl
    | succ skip => rw [readText, ih, List.drop_succ_cons]

/-- A spelled character is read as the character that it spells. -/
theorem readText_spelled {c : Char} {part : List Char} (spelled : SpellsChar c part)
    (read rest : List Char) : readText read 0 (part ++ rest) = readText (c :: read) 0 rest := by
  have escaped {escape : List Char} (spelled : SpellsChar c ('\\' :: escape)) :
      readText read 0 ('\\' :: escape ++ rest) = readText (c :: read) 0 rest := by
    have ended := readEscape_append spelled rest
    rw [List.cons_append, readText, if_neg (by decide), if_pos rfl, ended]
    dsimp only
    rw [readText_skip, List.drop_left]
  cases spelled with
  | plain printable notQuote notBackslash =>
    rw [List.singleton_append, readText, if_neg notQuote, if_neg notBackslash,
      if_neg (Nat.not_lt.mpr printable)]
  | short isShort => exact escaped (.short isShort)
  | @units _ digits spelled =>
    -- Every character has a unit, so that its escapes start with a backslash.
    have filled : digits ≠ [] := by
      rintro rfl
      rcases utf16_cases c with ⟨unit, units, _⟩ | ⟨leading, trailing, units, _⟩ <;>
        rw [units] at spelled <;> cases spelled
    obtain ⟨first, others, rfl⟩ := List.exists_cons_of_ne_nil filled
    exact escaped (.units spelled)

/-- A spelled text is read up to its closing quote. -/
theorem readText_append {value body : List Char} (spelled : SpellsText value body)
    (read rest : List Char) :
    readText read 0 (body ++ '\"' :: rest) = .ok (read.reverse ++ value, rest) := by
  obtain ⟨parts, spelled, rfl⟩ := spelled
  induction spelled generalizing read with
  | nil => simp [readText]
  | cons head _ ih =>
    rw [List.flatten_cons, List.append_assoc, readText_spelled head, ih]
    simp

private theorem SpellsText.nil : SpellsText [] [] :=
  ⟨[], .nil, rfl⟩

private theorem SpellsText.cons {c : Char} {value part body : List Char} (head : SpellsChar c part)
    (tail : SpellsText value body) : SpellsText (c :: value) (part ++ body) := by
  obtain ⟨parts, spelled, rfl⟩ := tail
  exact ⟨part :: parts, .cons head spelled, rfl⟩

/-- Printable characters spell themselves, apart from the quote and the backslash. -/
theorem spellsText_self {value : List Char}
    (plain : ∀ c ∈ value, 0x20 ≤ c.toNat ∧ c ≠ '\"' ∧ c ≠ '\\') : SpellsText value value := by
  induction value with
  | nil => exact .nil
  | cons c value ih =>
    obtain ⟨⟨printable, notQuote, notBackslash⟩, others⟩ := List.forall_mem_cons.mp plain
    exact .cons (.plain printable notQuote notBackslash) (ih others)

private theorem exists_spelled_of_readText {read : List Char} {skip : Nat}
    {text value rest : List Char}
    (success : readText read skip text = .ok (value, rest)) :
    ∃ tail body, SpellsText tail body ∧ value = read.reverse ++ tail ∧
      text.drop skip = body ++ '\"' :: rest := by
  fun_induction readText read skip text with
  | case1 => contradiction
  | case2 read skip c rest ih => exact ih success
  | case3 read rest =>
    cases success
    exact ⟨[], [], .nil, by simp, rfl⟩
  | case4 read more meant width escaped notQuote ih =>
    obtain ⟨tail, body, spelled, rfl, left⟩ := ih success
    obtain ⟨escape, after, head, rfl, rfl⟩ := exists_spelled_of_readEscape escaped
    refine ⟨meant :: tail, '\\' :: escape ++ body, .cons head spelled, by simp, ?_⟩
    rw [List.drop_left] at left
    rw [left]
    simp
  | case5 => contradiction
  | case6 => contradiction
  | case7 read c more notQuote notBackslash printable ih =>
    obtain ⟨tail, body, spelled, rfl, left⟩ := ih success
    have head : SpellsChar c [c] := .plain (Nat.not_lt.mp printable) notQuote notBackslash
    refine ⟨c :: tail, c :: body, .cons head spelled, by simp, ?_⟩
    rw [List.drop_zero] at left ⊢
    rw [left]
    rfl

/-- Reading accepts the texts that are spelled up to a closing quote, and nothing else. -/
theorem readText_eq_ok_iff {text value rest : List Char} :
    readText [] 0 text = .ok (value, rest) ↔
      ∃ body, SpellsText value body ∧ text = body ++ '\"' :: rest := by
  constructor
  · intro success
    obtain ⟨tail, body, spelled, rfl, whole⟩ := exists_spelled_of_readText success
    exact ⟨body, spelled, whole⟩
  · rintro ⟨body, spelled, rfl⟩
    exact readText_append spelled [] rest

end Splice.Secret
