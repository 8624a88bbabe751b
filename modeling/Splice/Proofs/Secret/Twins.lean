import Splice.Proofs.Secret.Literal
import Splice.Proofs.Secret.Selection

/-! # Payloads that differ inside one literal

Two runs of the reader over payloads that differ inside one literal stay together: they meet the
same fault before the literal or at its beginning, or read on behind it as if nothing had happened.
Only where the literal stands in the place of another value does the reader look at what it holds.
The main statements are `readFlatObject_of_twins` and, for the errors of fields,
`select_eq_invalidJson_of_twins`.
-/

namespace Splice.Secret

open Splice.Text

/-! ## Where a literal is looked at -/

/-- The beginning of a member, up to where its value is wanted. -/
def IsLabel (front : List Char) : Prop :=
  ∃ key label gap, Spaced (SpellsQuoted key) label ∧ Blanks gap ∧ front = label ++ ':' :: gap

/-- Members behind a first one, and the beginning of one more. -/
def IsFurtherLabel (front : List Char) : Prop :=
  ∃ back members stretches last, Blanks back ∧ SpellMembers members stretches ∧ IsLabel last ∧
    front = back ++ stretches.flatMap (',' :: ·) ++ ',' :: last

/-- A literal stands in the place of another value: a text or a number where the object is wanted,
or a number where the text of a member is wanted. -/
inductive Literal.StandsIn : Literal → List Char → Prop
  | text {front : List Char} : Blanks front → StandsIn text front
  | number {front : List Char} : Blanks front → StandsIn number front
  | value {front last : List Char} {members : List Member} {stretches : List (List Char)} :
      Blanks front → SpellMembers members stretches → IsLabel last →
      StandsIn number (front ++ '{' :: [','].intercalate (stretches ++ [last]))

private theorem IsLabel.spaced {front label : List Char} (blank : Blanks front)
    (isLabel : IsLabel label) :
    IsLabel (front ++ label) := by
  obtain ⟨key, _, gap, ⟨start, quoted, stop, startBlank, spelled, stopBlank, rfl⟩, gapBlank, rfl⟩ :=
    isLabel
  have blank : Blanks (front ++ start) := List.forall_mem_append.mpr ⟨blank, startBlank⟩
  exact ⟨key, _, gap, ⟨_, quoted, stop, blank, spelled, stopBlank, rfl⟩, gapBlank, by simp⟩

/-! ## Two runs -/

/-- Two readings that meet the same fault, or leave the same text to be read. It is the same because
it ends in one literal or the other, or because the literal has been read. -/
inductive Alike (kind : Literal) (rest other : List Char) {α : Type} :
    Except Fault (α × List Char) → Except Fault (α × List Char) → Prop
  | fault (fault : Fault) : Alike kind rest other (.error fault) (.error fault)
  | before (first second : α) {front : List Char} : kind.MayFollow front →
      Alike kind rest other (.ok (first, front ++ rest)) (.ok (second, front ++ other))
  | behind (first second : α) (text : List Char) :
      Alike kind rest other (.ok (first, text)) (.ok (second, text))

section

variable {kind : Literal} {rest other : List Char}

namespace Alike

private theorem refl {α : Type} (reading : Except Fault (α × List Char)) :
    Alike kind rest other reading reading := by
  cases reading with
  | error fault => exact .fault fault
  | ok pair => exact .behind pair.1 pair.1 pair.2

theorem map {α β : Type} {reading otherReading : Except Fault (α × List Char)}
    (alike : Alike kind rest other reading otherReading) (first second : α → β) :
    Alike kind rest other (reading.map fun (value, left) => (first value, left))
      (otherReading.map fun (value, left) => (second value, left)) := by
  cases alike with
  | fault fault => exact .fault fault
  | before _ _ follows => exact .before _ _ follows
  | behind _ _ text => exact .behind _ _ text

end Alike

theorem skipBlanks_before (varies : kind.Varies rest other) (front : List Char) :
    skipBlanks (front ++ rest) = skipBlanks front ++ rest ∧
      skipBlanks (front ++ other) = skipBlanks front ++ other := by
  obtain ⟨c, tail, d, otherTail, rfl, rfl, isOpening, otherOpening⟩ := varies.opening
  exact ⟨skipBlanks_opening isOpening front tail, skipBlanks_opening otherOpening front otherTail⟩

theorem mayFollow_skipBlanks {front : List Char} (follows : kind.MayFollow front) :
    kind.MayFollow (skipBlanks front) := by
  obtain ⟨blanks, blank, whole⟩ := exists_blanks front
  rw [whole, Literal.mayFollow_append (Place.after_blanks blank)] at follows
  exact follows

theorem mayFollow_tail {c : Char} {front : List Char} (stays : Place.outside.next c = .outside)
    (follows : kind.MayFollow (c :: front)) : kind.MayFollow front := by
  have closed : Place.outside.after [c] = .outside := stays
  exact (Literal.mayFollow_append closed front).mp follows

/-! ## Texts -/

private theorem readText_literal (varies : kind.Varies rest other) (isText : kind ≠ .number) :
    ∃ tail otherTail, rest = '\"' :: tail ∧ other = '\"' :: otherTail ∧
      ((∃ fault, readText [] 0 tail = .error fault ∧ readText [] 0 otherTail = .error fault) ∨
        ∃ value otherValue back, readText [] 0 tail = .ok (value, back) ∧
          readText [] 0 otherTail = .ok (otherValue, back)) := by
  cases varies with
  | @text value otherValue _ _ back spelled otherSpelled _ =>
    exact ⟨_, _, rfl, rfl, .inr ⟨value, otherValue, back, readText_append spelled [] back,
      readText_append otherSpelled [] back⟩⟩
  | unfinished spelled otherSpelled _ =>
    exact ⟨_, _, rfl, rfl, .inl ⟨_, readText_unfinished spelled [],
      readText_unfinished otherSpelled []⟩⟩
  | number _ _ _ _ => contradiction

private theorem readText_alike (varies : kind.Varies rest other) {front : List Char}
    (follows : kind.MayFollow ('\"' :: front)) :
    (∃ fault, readText [] 0 (front ++ rest) = .error fault ∧
      readText [] 0 (front ++ other) = .error fault) ∨
    ∃ value quoted behind, SpellsQuoted value quoted ∧ '\"' :: front = quoted ++ behind ∧
      kind.MayFollow behind ∧
      readText [] 0 (front ++ rest) = .ok (value, behind ++ rest) ∧
      readText [] 0 (front ++ other) = .ok (value, behind ++ other) := by
  refine (exists_spelled_before follows.settled varies.byteLength_eq).imp id ?_
  rintro ⟨value, body, behind, spelled, rfl⟩
  have quoted : SpellsQuoted value ('\"' :: body ++ ['\"']) := ⟨body, spelled, rfl⟩
  have whole : '\"' :: (body ++ '\"' :: behind) = '\"' :: body ++ ['\"'] ++ behind := by simp
  rw [whole, Literal.mayFollow_append (Place.after_spelledQuoted quoted)] at follows
  refine ⟨value, _, behind, quoted, whole, follows, ?_, ?_⟩
  · rw [List.append_assoc, List.cons_append, readText_append spelled]
    rfl
  · rw [List.append_assoc, List.cons_append, readText_append spelled]
    rfl

/-! ## Members -/

private theorem readValue_quote {text tail : List Char} (skipped : skipBlanks text = '\"' :: tail) :
    readValue text = readText [] 0 tail := by
  rw [readValue, skipped]
  rfl

private theorem readValue_other {text tail : List Char} {c : Char}
    (skipped : skipBlanks text = c :: tail)
    (notQuote : c ≠ '\"') : readValue text = .error (shapeFault .text (c :: tail)) := by
  simp [readValue, skipped, notQuote]

private theorem readValue_alike (varies : kind.Varies rest other) {front : List Char}
    (follows : kind.MayFollow front) (wanted : kind = .number → ¬ Blanks front) :
    Alike kind rest other (readValue (front ++ rest)) (readValue (front ++ other)) := by
  obtain ⟨skipped, otherSkipped⟩ := skipBlanks_before varies front
  have left := mayFollow_skipBlanks follows
  cases behind : skipBlanks front with
  | nil =>
    have isText : kind ≠ .number := fun number =>
      wanted number (skipBlanks_eq_nil_iff.mp behind)
    obtain ⟨tail, otherTail, rfl, rfl, alike⟩ := readText_literal varies isText
    rw [behind] at skipped otherSkipped
    rw [readValue_quote skipped, readValue_quote otherSkipped]
    rcases alike with ⟨fault, read, otherRead⟩ | ⟨value, otherValue, back, read, otherRead⟩
    · rw [read, otherRead]
      exact .fault fault
    · rw [read, otherRead]
      exact .behind value otherValue back
  | cons c front =>
    rw [behind] at skipped otherSkipped left
    rw [List.cons_append] at skipped otherSkipped
    by_cases quote : c = '\"'
    · subst quote
      rw [readValue_quote skipped, readValue_quote otherSkipped]
      rcases readText_alike varies left with ⟨fault, read, otherRead⟩ |
        ⟨value, _, _, _, _, follows, read, otherRead⟩
      · rw [read, otherRead]
        exact .fault fault
      · rw [read, otherRead]
        exact .before value value follows
    · rw [readValue_other skipped quote, readValue_other otherSkipped quote,
        shapeFault_before varies left]
      exact .fault _

private theorem readColon_other {text tail : List Char} {c : Char}
    (skipped : skipBlanks text = c :: tail)
    (notColon : c ≠ ':') : readColon text = .error (faultPast .colonExpected (c :: tail) 1) := by
  simp [readColon, skipped, notColon]

private theorem readColon_before (varies : kind.Varies rest other) (front : List Char) :
    (∃ fault, readColon (front ++ rest) = .error fault ∧
      readColon (front ++ other) = .error fault) ∨
    ∃ gap behind, Blanks gap ∧ front = gap ++ ':' :: behind := by
  have same := varies.byteLength_eq
  obtain ⟨skipped, otherSkipped⟩ := skipBlanks_before varies front
  cases behind : skipBlanks front with
  | nil =>
    rw [behind] at skipped otherSkipped
    obtain ⟨c, tail, d, otherTail, rfl, rfl, isOpening, otherOpening⟩ := varies.opening
    refine .inl ⟨_, readColon_other skipped (isOpening.ne (by decide)), ?_⟩
    rw [readColon_other otherSkipped (otherOpening.ne (by decide)), faultPast, faultPast, same]
  | cons c front =>
    rw [behind, List.cons_append] at skipped otherSkipped
    by_cases colon : c = ':'
    · subst colon
      obtain ⟨_, gap, blank, whole⟩ := skipBlanks_eq_cons_iff.mp behind
      exact .inr ⟨gap, front, blank, whole⟩
    · refine .inl ⟨_, readColon_other skipped colon, ?_⟩
      rw [readColon_other otherSkipped colon]
      simp [faultPast, same]

/-- A member by the characters of its key and its value. -/
def Member.ofTexts (key value : List Char) : Member :=
  ⟨String.ofList key, String.ofList value⟩

private theorem readMember_of_label {text key afterKey afterColon : List Char}
    (keyRead : readText [] 0 text = .ok (key, afterKey))
    (colonRead : readColon afterKey = .ok afterColon) :
    readMember ('\"' :: text) = (readValue afterColon).map fun (value, left) =>
      (Member.ofTexts key value, left) := by
  simp only [readMember, keyRead, colonRead, bind, Except.bind]
  cases readValue afterColon <;> rfl

private theorem readMember_other {c : Char} (notQuote : c ≠ '\"') (tail : List Char) :
    readMember (c :: tail) = .error (faultPast .keyNotText (c :: tail) 1) := by
  simp [readMember, notQuote]

private theorem readMember_of_keys {text otherText key otherKey afterKey : List Char}
    (keyRead : readText [] 0 text = .ok (key, afterKey))
    (otherKeyRead : readText [] 0 otherText = .ok (otherKey, afterKey)) :
    Alike kind rest other (readMember ('\"' :: text)) (readMember ('\"' :: otherText)) := by
  cases colonRead : readColon afterKey with
  | error fault =>
    simp only [readMember, keyRead, otherKeyRead, colonRead, bind, Except.bind]
    exact .fault fault
  | ok afterColon =>
    rw [readMember_of_label keyRead colonRead, readMember_of_label otherKeyRead colonRead]
    exact (Alike.refl _).map (Member.ofTexts key) (Member.ofTexts otherKey)

private theorem readMember_alike (varies : kind.Varies rest other) {front : List Char}
    (follows : kind.MayFollow front) (wanted : kind = .number → ¬ IsLabel front) :
    Alike kind rest other (readMember (front ++ rest)) (readMember (front ++ other)) := by
  have same := varies.byteLength_eq
  cases front with
  | nil =>
    by_cases isText : kind = .number
    · subst isText
      obtain ⟨c, tail, d, otherTail, rfl, rfl, notQuote, otherNotQuote⟩ := varies.sign
      rw [List.nil_append, List.nil_append, readMember_other notQuote,
        readMember_other otherNotQuote, faultPast, faultPast, same]
      exact .fault _
    · obtain ⟨tail, otherTail, rfl, rfl, alike⟩ := readText_literal varies isText
      rcases alike with ⟨fault, read, otherRead⟩ | ⟨value, otherValue, back, read, otherRead⟩
      · simp only [List.nil_append, readMember, read, otherRead, bind, Except.bind]
        exact .fault fault
      · exact readMember_of_keys read otherRead
  | cons c front =>
    by_cases quote : c = '\"'
    · subst quote
      rcases readText_alike varies follows with ⟨fault, read, otherRead⟩ |
        ⟨key, quoted, afterKey, spelled, label, afterFollows, read, otherRead⟩
      · simp only [List.cons_append, readMember, read, otherRead, bind, Except.bind]
        exact .fault fault
      rcases readColon_before varies afterKey with ⟨fault, colonRead, otherColonRead⟩ |
        ⟨gap, afterColon, blank, rfl⟩
      · simp only [List.cons_append, readMember, read, otherRead, colonRead, otherColonRead, bind,
          Except.bind]
        exact .fault fault
      have colonRead (rest : List Char) :
          readColon (gap ++ ':' :: afterColon ++ rest) = .ok (afterColon ++ rest) :=
        readColon_eq_ok_iff.mpr ⟨gap, blank, by simp⟩
      rw [Literal.mayFollow_append (Place.after_blanks blank)] at afterFollows
      have valued : kind = .number → ¬ Blanks afterColon := by
        intro number gapBlank
        refine wanted number ⟨key, quoted ++ gap, afterColon, ?_, gapBlank, by simp [label]⟩
        exact ⟨[], quoted, gap, .nil, spelled, blank, by simp⟩
      rw [List.cons_append, List.cons_append, readMember_of_label read (colonRead rest),
        readMember_of_label otherRead (colonRead other)]
      exact (readValue_alike varies (mayFollow_tail rfl afterFollows) valued).map
        (Member.ofTexts key) (Member.ofTexts key)
    · rw [List.cons_append, List.cons_append, readMember_other quote, readMember_other quote]
      simp only [faultPast, byteLength_cons, byteLength_append, same]
      exact .fault _

private theorem readNextMember_start {text tail : List Char} {c : Char}
    (skipped : skipBlanks text = c :: tail) (notBrace : c ≠ '}') :
    readNextMember text = readMember (c :: tail) := by
  simp [readNextMember, skipped, notBrace]

private theorem readNextMember_alike (varies : kind.Varies rest other) {front : List Char}
    (follows : kind.MayFollow front) (wanted : kind = .number → ¬ IsLabel front) :
    Alike kind rest other (readNextMember (front ++ rest)) (readNextMember (front ++ other)) := by
  obtain ⟨blanks, blank, whole⟩ := exists_blanks front
  obtain ⟨skipped, otherSkipped⟩ := skipBlanks_before varies front
  have alike := readMember_alike varies (mayFollow_skipBlanks follows) fun number isLabel =>
    wanted number (whole ▸ isLabel.spaced blank)
  cases behind : skipBlanks front with
  | nil =>
    rw [behind] at skipped otherSkipped alike
    obtain ⟨c, tail, d, otherTail, rfl, rfl, isOpening, otherOpening⟩ := varies.opening
    rwa [readNextMember_start skipped (isOpening.ne (by decide)),
      readNextMember_start otherSkipped (otherOpening.ne (by decide))]
  | cons c front =>
    rw [behind] at skipped otherSkipped alike
    by_cases brace : c = '}'
    · subst brace
      simp only [readNextMember, skipped, otherSkipped, List.cons_append, faultPast,
        byteLength_cons, byteLength_append, varies.byteLength_eq]
      exact .fault _
    · rwa [readNextMember_start skipped brace, readNextMember_start otherSkipped brace]

/-! ## Objects -/

private theorem readFurther_brace {text tail : List Char}
    (skipped : skipBlanks text = '}' :: tail) :
    readFurther text = .ok ([], tail) := by
  rw [readFurther_eq, skipped]
  rfl

private theorem readFurther_other {text tail : List Char} {c : Char}
    (skipped : skipBlanks text = c :: tail)
    (notBrace : c ≠ '}') (notComma : c ≠ ',') :
    readFurther text = .error (faultPast .commaOrEndExpected (c :: tail) 1) := by
  rw [readFurther_eq, skipped]
  simp [notBrace, notComma]

/-- The members that follow one that was read. -/
def andFurther (reading : Except Fault (Member × List Char)) :
    Except Fault (List Member × List Char) :=
  reading.bind fun (member, after) =>
    (readFurther after).map fun (members, last) => (member :: members, last)

private theorem andFurther_alike {reading otherReading : Except Fault (Member × List Char)}
    (alike : Alike kind rest other reading otherReading)
    (further : ∀ member after, reading = .ok (member, after ++ rest) → kind.MayFollow after →
      Alike kind rest other (readFurther (after ++ rest)) (readFurther (after ++ other))) :
    Alike kind rest other (andFurther reading) (andFurther otherReading) := by
  cases alike with
  | fault fault => exact .fault fault
  | before first second follows =>
    exact (further first _ rfl follows).map (first :: ·) (second :: ·)
  | behind first second text => exact (Alike.refl _).map (first :: ·) (second :: ·)

private theorem readFurther_comma {text tail : List Char}
    (skipped : skipBlanks text = ',' :: tail) :
    readFurther text = andFurther (readNextMember tail) := by
  rw [readFurther_eq, skipped]
  cases read : readNextMember tail <;> simp [andFurther, read, Except.bind]

private theorem readFurther_alike (varies : kind.Varies rest other) {front : List Char}
    (follows : kind.MayFollow front) (wanted : kind = .number → ¬ IsFurtherLabel front) :
    Alike kind rest other (readFurther (front ++ rest)) (readFurther (front ++ other)) := by
  -- A member is read as a whole, so that the induction is on the length.
  induction len : front.length using Nat.strong_induction_on generalizing front with
  | _ n ih =>
    subst len
    obtain ⟨skipped, otherSkipped⟩ := skipBlanks_before varies front
    have left := mayFollow_skipBlanks follows
    cases behind : skipBlanks front with
    | nil =>
      rw [behind] at skipped otherSkipped
      have same := varies.byteLength_eq
      obtain ⟨c, tail, d, otherTail, rfl, rfl, isOpening, otherOpening⟩ := varies.opening
      rw [readFurther_other skipped (isOpening.ne (by decide)) (isOpening.ne (by decide)),
        readFurther_other otherSkipped (otherOpening.ne (by decide)) (otherOpening.ne (by decide)),
        faultPast, faultPast, same]
      exact .fault _
    | cons c tail =>
      rw [behind] at skipped otherSkipped left
      rw [List.cons_append] at skipped otherSkipped
      by_cases brace : c = '}'
      · subst brace
        rw [readFurther_brace skipped, readFurther_brace otherSkipped]
        exact .before [] [] (mayFollow_tail rfl left)
      by_cases comma : c = ','
      · subst comma
        obtain ⟨_, back, blank, rfl⟩ := skipBlanks_eq_cons_iff.mp behind
        have nextAlike := readNextMember_alike varies (mayFollow_tail rfl left)
          fun number isLabel => wanted number
            ⟨back, [], [], tail, blank, .nil, isLabel, by simp⟩
        rw [readFurther_comma skipped, readFurther_comma otherSkipped]
        refine andFurther_alike nextAlike fun member after read afterFollows => ?_
        obtain ⟨start, stretch, startBlank, spelled, whole⟩ := readNextMember_eq_ok_iff.mp read
        rw [← List.append_assoc] at whole
        obtain rfl := List.append_cancel_right whole
        have shorter : after.length < (back ++ ',' :: (start ++ stretch ++ after)).length := by
          simp only [List.length_append, List.length_cons]
          omega
        refine ih _ shorter afterFollows ?_ rfl
        rintro number ⟨gap, members, stretches, last, gapBlank, others, isLabel, rfl⟩
        exact wanted number ⟨back, member :: members, (start ++ stretch ++ gap) :: stretches, last,
          blank, .cons ⟨start, stretch, gap, startBlank, spelled, gapBlank, rfl⟩ others, isLabel,
          by simp⟩
      · rw [readFurther_other skipped brace comma, readFurther_other otherSkipped brace comma]
        simp only [faultPast, byteLength_cons, byteLength_append, varies.byteLength_eq]
        exact .fault _

private theorem readMembers_brace {text tail : List Char}
    (skipped : skipBlanks text = '}' :: tail) :
    readMembers text = .ok ([], tail) := by
  rw [readMembers, skipped]
  rfl

private theorem readMembers_start_further {text tail : List Char} {c : Char}
    (skipped : skipBlanks text = c :: tail) (notBrace : c ≠ '}') :
    readMembers text = andFurther (readMember (c :: tail)) := by
  rw [readMembers_start skipped notBrace]
  simp only [andFurther, bind, Except.bind]
  cases readMember (c :: tail) with
  | error fault => rfl
  | ok pair => cases readFurther pair.2 <;> rfl

private theorem readMembers_alike (varies : kind.Varies rest other) {front : List Char}
    (follows : kind.MayFollow front)
    (wanted : kind = .number → ¬ ∃ members stretches last, SpellMembers members stretches ∧
      IsLabel last ∧ front = [','].intercalate (stretches ++ [last])) :
    Alike kind rest other (readMembers (front ++ rest)) (readMembers (front ++ other)) := by
  obtain ⟨skipped, otherSkipped⟩ := skipBlanks_before varies front
  obtain ⟨start, startBlank, whole⟩ := exists_blanks front
  have memberAlike := readMember_alike varies (mayFollow_skipBlanks follows) fun number isLabel =>
    wanted number ⟨[], [], front, .nil, whole ▸ isLabel.spaced startBlank, by simp⟩
  have alike := andFurther_alike memberAlike fun member after read afterFollows => by
    obtain ⟨stretch, spelled, cut⟩ := readMember_eq_ok_iff.mp read
    rw [← List.append_assoc] at cut
    replace cut := List.append_cancel_right cut
    refine readFurther_alike varies afterFollows ?_
    rintro number ⟨gap, members, stretches, last, gapBlank, others, isLabel, rfl⟩
    refine wanted number ⟨member :: members, (start ++ stretch ++ gap) :: stretches, last,
      .cons ⟨start, stretch, gap, startBlank, spelled, gapBlank, rfl⟩ others, isLabel, ?_⟩
    rw [whole, cut, List.cons_append, intercalate_comma_cons]
    simp
  cases behind : skipBlanks front with
  | nil =>
    rw [behind] at skipped otherSkipped alike
    obtain ⟨c, tail, d, otherTail, rfl, rfl, isOpening, otherOpening⟩ := varies.opening
    rwa [readMembers_start_further skipped (isOpening.ne (by decide)),
      readMembers_start_further otherSkipped (otherOpening.ne (by decide))]
  | cons c tail =>
    rw [behind] at skipped otherSkipped alike
    by_cases brace : c = '}'
    · subst brace
      have left := mayFollow_skipBlanks follows
      rw [behind] at left
      rw [readMembers_brace skipped, readMembers_brace otherSkipped]
      exact .before [] [] (mayFollow_tail rfl left)
    · rwa [readMembers_start_further skipped brace, readMembers_start_further otherSkipped brace]

/-! ## Contents -/

private theorem readContent_other {text tail : List Char} {c : Char}
    (skipped : skipBlanks text = c :: tail)
    (notNull : c ≠ 'n') (notBrace : c ≠ '{') :
    readContent text = .error (shapeFault .object (c :: tail)) := by
  simp [readContent, skipped, notNull, notBrace]

private theorem readContent_null {text tail : List Char} (skipped : skipBlanks text = 'n' :: tail) :
    readContent text = (readWord ['u', 'l', 'l'] tail).map fun after => ([], after) := by
  rw [readContent, skipped]
  rfl

private theorem readContent_brace {text tail : List Char}
    (skipped : skipBlanks text = '{' :: tail) :
    readContent text = readMembers tail := by
  rw [readContent, skipped]
  rfl

private theorem readContent_alike (varies : kind.Varies rest other) {front : List Char}
    (follows : kind.MayFollow front) (apart : ¬ kind.StandsIn front) :
    Alike kind rest other (readContent (front ++ rest)) (readContent (front ++ other)) := by
  obtain ⟨skipped, otherSkipped⟩ := skipBlanks_before varies front
  have left := mayFollow_skipBlanks follows
  cases behind : skipBlanks front with
  | nil =>
    have blank := skipBlanks_eq_nil_iff.mp behind
    rw [behind] at skipped otherSkipped
    cases varies with
    | text _ _ _ _ => exact absurd (.text blank) apart
    | number _ _ _ _ => exact absurd (.number blank) apart
    | unfinished spelled otherSpelled _ =>
      rw [readContent_other skipped (by decide) (by decide),
        readContent_other otherSkipped (by decide) (by decide)]
      simp only [shapeFault, readText_unfinished spelled, readText_unfinished otherSpelled]
      exact .fault _
  | cons c tail =>
    rw [behind] at skipped otherSkipped left
    rw [List.cons_append] at skipped otherSkipped
    by_cases null : c = 'n'
    · subst null
      rw [readContent_null skipped, readContent_null otherSkipped]
      have plain : ∀ letter ∈ ['u', 'l', 'l'], ¬ Literal.IsOpening letter :=
        List.all_iff_forall_prop.mp (by decide)
      rcases readWord_before varies plain tail with ⟨fault, read, otherRead⟩ | ⟨after, rfl⟩
      · rw [read, otherRead]
        exact .fault fault
      · have read (rest : List Char) :
            readWord ['u', 'l', 'l'] (['u', 'l', 'l'] ++ after ++ rest) = .ok (after ++ rest) :=
          readWord_eq_ok_iff.mpr (List.append_assoc ..)
        have closed : Place.outside.after ['n', 'u', 'l', 'l'] = .outside := rfl
        have afterFollows := (Literal.mayFollow_append closed after).mp left
        rw [read, read]
        exact .before [] [] afterFollows
    by_cases brace : c = '{'
    · subst brace
      obtain ⟨_, start, blank, rfl⟩ := skipBlanks_eq_cons_iff.mp behind
      rw [readContent_brace skipped, readContent_brace otherSkipped]
      refine readMembers_alike varies (mayFollow_tail rfl left) ?_
      rintro rfl ⟨members, stretches, last, spelled, isLabel, rfl⟩
      exact apart (.value blank spelled isLabel)
    · rw [readContent_other skipped null brace, readContent_other otherSkipped null brace,
        shapeFault_before varies left]
      exact .fault _

private theorem readFlatObject_trailing {text left : List Char} {members : List Member}
    (content : readContent text = .ok (members, left)) (goesOn : skipBlanks left ≠ []) :
    readFlatObject text = .error (faultPast .charactersTrail (skipBlanks left) 1) := by
  obtain ⟨c, tail, skipped⟩ := List.exists_cons_of_ne_nil goesOn
  simp [readFlatObject, content, skipped, bind, Except.bind]

private theorem readFlatObject_ended {text left : List Char} {members : List Member}
    (content : readContent text = .ok (members, left)) (ended : skipBlanks left = []) :
    readFlatObject text = .ok members := by
  simp [readFlatObject, content, ended, bind, Except.bind, pure, Except.pure]

/-- Two payloads that differ inside one literal are both accepted, or rejected for the same fault,
unless the literal stands in the place of another value. -/
theorem readFlatObject_of_twins (varies : kind.Varies rest other) {front : List Char}
    (follows : kind.MayFollow front) (apart : ¬ kind.StandsIn front) :
    (∃ fault, readFlatObject (front ++ rest) = .error fault ∧
      readFlatObject (front ++ other) = .error fault) ∨
    ∃ members others, readFlatObject (front ++ rest) = .ok members ∧
      readFlatObject (front ++ other) = .ok others := by
  have alike := readContent_alike varies follows apart
  generalize content : readContent (front ++ rest) = reading at alike
  generalize otherContent : readContent (front ++ other) = otherReading at alike
  cases alike with
  | fault fault =>
    refine .inl ⟨fault, ?_, ?_⟩
    · rw [readFlatObject, content]
      rfl
    · rw [readFlatObject, otherContent]
      rfl
  | @before first second back _ =>
    -- With the literal still to come, the text goes on behind its content.
    obtain ⟨skipped, otherSkipped⟩ := skipBlanks_before varies back
    obtain ⟨c, tail, d, otherTail, restIs, otherIs, _, _⟩ := varies.opening
    have goesOn : skipBlanks (back ++ rest) ≠ [] := by
      rw [skipped]
      simp [restIs]
    have otherGoesOn : skipBlanks (back ++ other) ≠ [] := by
      rw [otherSkipped]
      simp [otherIs]
    refine .inl ⟨_, readFlatObject_trailing content goesOn, ?_⟩
    rw [readFlatObject_trailing otherContent otherGoesOn, skipped, otherSkipped,
      faultPast, faultPast, byteLength_append, byteLength_append, varies.byteLength_eq]
  | behind first second text =>
    by_cases ended : skipBlanks text = []
    · exact .inr ⟨first, second, readFlatObject_ended content ended,
        readFlatObject_ended otherContent ended⟩
    · exact .inl ⟨_, readFlatObject_trailing content ended,
        readFlatObject_trailing otherContent ended⟩

/-! ## Reports -/

private theorem placeAfter_of_line {front : List Char} (oneLine : '\n' ∉ front) (line column : Nat)
    (back : List Char) (bytes : Nat) :
    placeAfter line column (front ++ back) bytes =
      if bytes < byteLength front then (line, column + bytes)
      else placeAfter line (column + byteLength front) back (bytes - byteLength front) := by
  induction front generalizing column bytes with
  | nil => simp
  | cons c front ih =>
    obtain ⟨notBreak, oneLine⟩ := List.ne_and_not_mem_of_not_mem_cons oneLine
    rw [List.cons_append, placeAfter, if_neg notBreak.symm, ih oneLine, byteLength_cons]
    by_cases inHead : bytes < c.utf8Size
    · rw [if_pos inHead, if_pos (by omega)]
    · rw [if_neg inHead]
      by_cases inFront : bytes - c.utf8Size < byteLength front
      · rw [if_pos inFront, if_pos (by omega)]
        congr 1
        omega
      · rw [if_neg inFront, if_neg (by omega), Nat.add_assoc, Nat.sub_sub]

private theorem placeAfter_append {text otherText : List Char}
    (same : ∀ line column bytes,
      placeAfter line column otherText bytes = placeAfter line column text bytes)
    (front : List Char) (line column bytes : Nat) :
    placeAfter line column (front ++ otherText) bytes =
      placeAfter line column (front ++ text) bytes := by
  induction front generalizing line column bytes with
  | nil => exact same line column bytes
  | cons c front ih => simp only [List.cons_append, placeAfter, ih]

private theorem report_of_varies (varies : kind.Varies rest other) (fault : Fault)
    (front : List Char) :
    fault.report (front ++ other) = fault.report (front ++ rest) := by
  obtain ⟨literal, otherLiteral, back, rfl, rfl, oneLine, otherOneLine, same⟩ := varies.oneLine
  have place (line column bytes : Nat) :
      placeAfter line column (otherLiteral ++ back) bytes =
        placeAfter line column (literal ++ back) bytes := by
    rw [placeAfter_of_line oneLine, placeAfter_of_line otherOneLine, same]
  simp only [Fault.report, placeAfter_append place, byteLength_append, same]

end

/-! ## Twins -/

/-- Two payloads that differ inside one literal of a kind, of the same length, behind some
characters. -/
def Twins (kind : Literal) (front payload otherPayload : List Char) : Prop :=
  ∃ rest other, kind.MayFollow front ∧ kind.Varies rest other ∧ payload = front ++ rest ∧
    otherPayload = front ++ other

private theorem select_ne_invalidJson_of_read {id text key reason : String} {members : List Member}
    (read : readFlatObject text.toList = .ok members) :
    select id (some text) (some key) ≠ .error (.invalidJson id reason) := by
  rw [select_field_of_read read]
  split <;> simp

/-- A payload that is no object of texts is rejected before any field is looked up. -/
theorem select_invalidJson_any_key {id text key reason : String}
    (rejected : select id (some text) (some key) = .error (.invalidJson id reason))
    (otherKey : String) :
    select id (some text) (some otherKey) = .error (.invalidJson id reason) := by
  cases read : readFlatObject text.toList with
  | error fault =>
    rw [select_field_of_fault read] at rejected ⊢
    exact rejected
  | ok members => exact absurd rejected (select_ne_invalidJson_of_read read)

/-- The lookup of a field in one of two twins fails for the payload exactly if it does so in the
other, with the same error. -/
theorem select_eq_invalidJson_of_twins {kind : Literal} {front : List Char} {text other : String}
    (twins : Twins kind front text.toList other.toList) (apart : ¬ kind.StandsIn front)
    (id key reason : String) :
    select id (some text) (some key) = .error (.invalidJson id reason) ↔
      select id (some other) (some key) = .error (.invalidJson id reason) := by
  obtain ⟨rest, otherRest, follows, varies, whole, otherWhole⟩ := twins
  rcases readFlatObject_of_twins varies follows apart with ⟨fault, read, otherRead⟩ |
    ⟨members, others, read, otherRead⟩
  · rw [← whole] at read
    rw [← otherWhole] at otherRead
    rw [select_field_of_fault read, select_field_of_fault otherRead, whole, otherWhole,
      report_of_varies varies]
  · rw [← whole] at read
    rw [← otherWhole] at otherRead
    exact iff_of_false (select_ne_invalidJson_of_read read)
      (select_ne_invalidJson_of_read otherRead)

end Splice.Secret
