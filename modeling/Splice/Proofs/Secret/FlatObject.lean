import Mathlib.Data.List.TakeWhile
import Splice.Proofs.Secret.Quoted

/-! # Flat objects of texts

The grammar of the texts in which a field can be looked up: an object whose members are all texts,
or `null`, with blanks around every part. The main statement, `readFlatObject_eq_ok_iff`, says that
reading accepts these texts, with the members that they spell, and nothing else.

An object with a member of another kind, and a text that goes on after its content, are outside the
grammar whatever else they hold.
-/

namespace Splice.Secret

/-! ## The grammar -/

/-- A stretch of blanks, possibly of none. -/
def Blanks (text : List Char) : Prop :=
  ∀ c ∈ text, c ∈ [' ', '\t', '\n', '\r']

/-- What a stretch spells may stand among blanks. -/
def Spaced (spells : List Char → Prop) (text : List Char) : Prop :=
  ∃ front core back, Blanks front ∧ spells core ∧ Blanks back ∧ text = front ++ core ++ back

/-- A text with its quotes. -/
def SpellsQuoted (value text : List Char) : Prop :=
  ∃ body, SpellsText value body ∧ text = '\"' :: body ++ ['\"']

/-- A member is its key and its value, each between quotes, with a colon between them. -/
def Member.Spells (member : Member) (text : List Char) : Prop :=
  ∃ key gap gap' value, SpellsQuoted member.key.toList key ∧ Blanks gap ∧ Blanks gap' ∧
    SpellsQuoted member.value.toList value ∧ text = key ++ gap ++ ':' :: gap' ++ value

/-- Each of the stretches spells a member, among blanks. -/
def SpellMembers : List Member → List (List Char) → Prop :=
  List.Forall₂ fun member => Spaced member.Spells

/-- An object is its members between braces, with a comma between every two of them. -/
inductive SpellsObject : List Member → List Char → Prop
  | empty {blanks : List Char} : Blanks blanks → SpellsObject [] ('{' :: blanks ++ ['}'])
  | filled {members : List Member} {stretches : List (List Char)} : members ≠ [] →
      SpellMembers members stretches →
      SpellsObject members ('{' :: [','].intercalate stretches ++ ['}'])

/-- A content is an object, or `null` in place of an empty one. -/
inductive SpellsContent : List Member → List Char → Prop
  | object {members : List Member} {text : List Char} : SpellsObject members text →
      SpellsContent members text
  | null : SpellsContent [] "null".toList

/-- An object with a member whose value does not begin with a quote: members that are texts may
come before it, and anything after it. -/
def HasOtherMember (text : List Char) : Prop :=
  ∃ front members stretches key label rest, Blanks front ∧ SpellMembers members stretches ∧
    Spaced (SpellsQuoted key) label ∧
    (∀ blanks, Blanks blanks → ¬ blanks ++ ['\"'] <+: rest) ∧
    text = front ++ '{' :: [','].intercalate (stretches ++ [label ++ ':' :: rest])

/-! ## Blanks -/

theorem isJsonBlank_iff {c : Char} : isJsonBlank c = true ↔ c ∈ [' ', '\t', '\n', '\r'] := by
  simp only [isJsonBlank, Bool.or_eq_true, beq_iff_eq, List.mem_cons, List.not_mem_nil, or_false]
  tauto

theorem Blanks.nil : Blanks [] :=
  List.forall_mem_nil _

theorem skipBlanks_append {front : List Char} (blank : Blanks front) (text : List Char) :
    skipBlanks (front ++ text) = skipBlanks text :=
  List.dropWhile_append_of_pos fun c member => isJsonBlank_iff.mpr (blank c member)

theorem skipBlanks_cons {c : Char} (notBlank : isJsonBlank c = false) (rest : List Char) :
    skipBlanks (c :: rest) = c :: rest :=
  List.dropWhile_cons_of_neg (by simp [notBlank])

theorem exists_blanks (text : List Char) :
    ∃ front, Blanks front ∧ text = front ++ skipBlanks text :=
  ⟨text.takeWhile isJsonBlank,
    fun _ member => isJsonBlank_iff.mp (List.mem_takeWhile_imp member),
    List.takeWhile_append_dropWhile.symm⟩

/-- Behind the blanks at the head of a text stands a character that is not blank. -/
theorem skipBlanks_eq_cons_iff {text rest : List Char} {c : Char} :
    skipBlanks text = c :: rest ↔
      isJsonBlank c = false ∧ ∃ front, Blanks front ∧ text = front ++ c :: rest := by
  constructor
  · intro skipped
    obtain ⟨front, blank, whole⟩ := exists_blanks text
    have notBlank := List.head?_dropWhile_not isJsonBlank text
    rw [skipBlanks] at skipped
    rw [skipped] at notBlank
    exact ⟨notBlank, front, blank, whole.trans (congrArg (front ++ ·) skipped)⟩
  · rintro ⟨notBlank, front, blank, rfl⟩
    rw [skipBlanks_append blank, skipBlanks_cons notBlank]

theorem skipBlanks_eq_nil_iff {text : List Char} : skipBlanks text = [] ↔ Blanks text := by
  simp only [skipBlanks, List.dropWhile_eq_nil_iff, isJsonBlank_iff, Blanks]

/-! ## Members -/

private theorem readValue_eq_ok_iff {text value rest : List Char} :
    readValue text = .ok (value, rest) ↔
      ∃ front quoted, Blanks front ∧ SpellsQuoted value quoted ∧
        text = front ++ quoted ++ rest := by
  constructor
  · intro read
    unfold readValue at read
    split at read
    · next behind skipped =>
      obtain ⟨_, front, blank, rfl⟩ := skipBlanks_eq_cons_iff.mp skipped
      obtain ⟨body, spelled, rfl⟩ := readText_eq_ok_iff.mp read
      exact ⟨front, _, blank, ⟨body, spelled, rfl⟩, by simp⟩
    · contradiction
  · rintro ⟨front, _, blank, ⟨body, spelled, rfl⟩, rfl⟩
    have skipped : skipBlanks (front ++ ('\"' :: body ++ ['\"']) ++ rest) =
        '\"' :: (body ++ '\"' :: rest) :=
      skipBlanks_eq_cons_iff.mpr ⟨by decide, front, blank, by simp⟩
    rw [readValue, skipped]
    exact readText_eq_ok_iff.mpr ⟨body, spelled, rfl⟩

theorem readColon_eq_ok_iff {text rest : List Char} :
    readColon text = .ok rest ↔ ∃ front, Blanks front ∧ text = front ++ ':' :: rest := by
  constructor
  · intro read
    unfold readColon at read
    split at read
    · next skipped =>
      cases read
      exact (skipBlanks_eq_cons_iff.mp skipped).2
    · contradiction
    · contradiction
  · intro found
    have skipped := skipBlanks_eq_cons_iff.mpr ⟨by decide, found⟩
    simp [readColon, skipped]

theorem readMember_eq_ok_iff {text rest : List Char} {member : Member} :
    readMember text = .ok (member, rest) ↔
      ∃ stretch, member.Spells stretch ∧ text = stretch ++ rest := by
  constructor
  · intro read
    unfold readMember at read
    split at read
    · next behind =>
      obtain ⟨⟨key, afterKey⟩, keyRead, read⟩ := bind_eq_ok_iff.mp read
      obtain ⟨afterColon, colonRead, read⟩ := bind_eq_ok_iff.mp read
      obtain ⟨⟨value, last⟩, valueRead, read⟩ := bind_eq_ok_iff.mp read
      cases read
      obtain ⟨body, keySpelled, rfl⟩ := readText_eq_ok_iff.mp keyRead
      obtain ⟨gap, blank, rfl⟩ := readColon_eq_ok_iff.mp colonRead
      obtain ⟨gap', quoted, blank', valueSpelled, rfl⟩ := readValue_eq_ok_iff.mp valueRead
      have keyQuoted : SpellsQuoted (String.ofList key).toList ('\"' :: body ++ ['\"']) :=
        ⟨body, by simpa using keySpelled, rfl⟩
      have valueQuoted : SpellsQuoted (String.ofList value).toList quoted := by
        simpa using valueSpelled
      exact ⟨_, ⟨_, gap, gap', quoted, keyQuoted, blank, blank', valueQuoted, rfl⟩, by simp⟩
    · contradiction
  · rintro ⟨_, ⟨_, gap, gap', quoted, ⟨body, keySpelled, rfl⟩, blank, blank', valueSpelled, rfl⟩,
      rfl⟩
    have keyRead := readText_eq_ok_iff.mpr
      ⟨body, keySpelled, (rfl : _ = body ++ '\"' :: (gap ++ ':' :: (gap' ++ quoted ++ rest)))⟩
    have colonRead := readColon_eq_ok_iff.mpr
      ⟨gap, blank, (rfl : _ = gap ++ ':' :: (gap' ++ quoted ++ rest))⟩
    have valueRead := readValue_eq_ok_iff.mpr
      ⟨gap', quoted, blank', valueSpelled, (rfl : _ = gap' ++ quoted ++ rest)⟩
    have whole : '\"' :: body ++ ['\"'] ++ gap ++ ':' :: gap' ++ quoted ++ rest =
        '\"' :: (body ++ '\"' :: (gap ++ ':' :: (gap' ++ quoted ++ rest))) := by simp
    rw [whole, readMember]
    refine bind_eq_ok_iff.mpr ⟨_, keyRead, bind_eq_ok_iff.mpr ⟨_, colonRead, ?_⟩⟩
    exact bind_eq_ok_iff.mpr ⟨_, valueRead, by simp [pure, Except.pure]⟩

private theorem Member.Spells.notBlank {member : Member} {stretch : List Char}
    (spelled : member.Spells stretch) : ∃ rest, stretch = '\"' :: rest := by
  obtain ⟨_, gap, gap', value, ⟨body, _, rfl⟩, _, _, _, rfl⟩ := spelled
  exact ⟨_, rfl⟩

theorem readNextMember_eq_ok_iff {text rest : List Char} {member : Member} :
    readNextMember text = .ok (member, rest) ↔
      ∃ front stretch, Blanks front ∧ member.Spells stretch ∧ text = front ++ stretch ++ rest := by
  constructor
  · intro read
    unfold readNextMember at read
    split at read
    · contradiction
    · contradiction
    · obtain ⟨stretch, spelled, behind⟩ := readMember_eq_ok_iff.mp read
      obtain ⟨front, blank, whole⟩ := exists_blanks text
      exact ⟨front, stretch, blank, spelled, by rw [whole, behind, List.append_assoc]⟩
  · rintro ⟨front, stretch, blank, spelled, rfl⟩
    have read := readMember_eq_ok_iff.mpr ⟨stretch, spelled, (rfl : _ = stretch ++ rest)⟩
    obtain ⟨behind, rfl⟩ := spelled.notBlank
    have skipped : skipBlanks (front ++ '\"' :: behind ++ rest) = '\"' :: (behind ++ rest) :=
      skipBlanks_eq_cons_iff.mpr ⟨by decide, front, blank, by simp⟩
    rw [readNextMember, skipped]
    exact read

/-! ## Objects -/

/-- What follows a member is read one comma at a time. -/
theorem readFurther_eq (text : List Char) :
    readFurther text = match skipBlanks text with
      | [] => .error (faultAt .endsInObject [])
      | '}' :: rest => .ok ([], rest)
      | ',' :: rest =>
        match readNextMember rest with
        | .error fault => .error fault
        | .ok (member, after) =>
          (readFurther after).map fun (members, last) => (member :: members, last)
      | rest => .error (faultPast .commaOrEndExpected rest 1) := by
  rw [readFurther]
  split
  · next skipped => simp [skipped]
  · next skipped => simp [skipped]
  · next skipped =>
    split
    · next read => simp [skipped, read]
    · next after read =>
      cases further : readFurther after <;> simp [skipped, read, further, Except.map]
  · next notEnd notBrace notComma =>
    split
    · contradiction
    · next same => exact absurd same (notBrace _)
    · next same => exact absurd same (notComma _)
    · rfl

private theorem readFurther_skip {front : List Char} (blank : Blanks front) (text : List Char) :
    readFurther (front ++ text) = readFurther text := by
  rw [readFurther_eq, readFurther_eq text, skipBlanks_append blank]

private theorem readFurther_append {members : List Member} {stretches : List (List Char)}
    (spelled : SpellMembers members stretches) {back : List Char} (blank : Blanks back)
    (text : List Char) :
    readFurther (back ++ stretches.flatMap (',' :: ·) ++ text) =
      (readFurther text).map fun (further, last) => (members ++ further, last) := by
  -- The blanks behind a member are skipped before the next comma, so that they vary.
  induction spelled generalizing back with
  | nil =>
    rw [List.flatMap_nil, List.append_nil, readFurther_skip blank]
    cases readFurther text <;> rfl
  | @cons member stretch members stretches head _ ih =>
    obtain ⟨front, core, back', frontBlank, spelled, backBlank, rfl⟩ := head
    have skipped : skipBlanks
        (back ++ ((front ++ core ++ back') :: stretches).flatMap (',' :: ·) ++ text) =
        ',' :: (front ++ core ++ (back' ++ stretches.flatMap (',' :: ·) ++ text)) :=
      skipBlanks_eq_cons_iff.mpr ⟨by decide, back, blank, by simp⟩
    have next : readNextMember (front ++ core ++ (back' ++ stretches.flatMap (',' :: ·) ++ text)) =
        .ok (member, back' ++ stretches.flatMap (',' :: ·) ++ text) :=
      readNextMember_eq_ok_iff.mpr ⟨front, core, frontBlank, spelled, rfl⟩
    rw [readFurther_eq, skipped]
    simp only [next, ih backBlank]
    cases readFurther text <;> rfl

private theorem exists_spelled_of_readFurther {text rest : List Char} {members : List Member}
    (read : readFurther text = .ok (members, rest)) :
    ∃ back stretches, Blanks back ∧ SpellMembers members stretches ∧
      text = back ++ stretches.flatMap (',' :: ·) ++ '}' :: rest := by
  fun_induction readFurther text generalizing members with
  | case1 => contradiction
  | case2 text rest skipped =>
    cases read
    obtain ⟨_, back, blank, rfl⟩ := skipBlanks_eq_cons_iff.mp skipped
    exact ⟨back, [], blank, .nil, by simp⟩
  | case3 => contradiction
  | case4 => contradiction
  | case5 text rest skipped member after next further last success ih =>
    cases read
    obtain ⟨_, back, blank, rfl⟩ := skipBlanks_eq_cons_iff.mp skipped
    obtain ⟨front, core, frontBlank, spelled, rfl⟩ := readNextMember_eq_ok_iff.mp next
    obtain ⟨back', stretches, backBlank, tail, rfl⟩ := ih success
    exact ⟨back, (front ++ core ++ back') :: stretches, blank,
      .cons ⟨front, core, back', frontBlank, spelled, backBlank, rfl⟩ tail, by simp⟩
  | case6 => contradiction

/-- The members behind the first one are those behind a comma. -/
theorem intercalate_comma_cons (stretch : List Char) (stretches : List (List Char)) :
    [','].intercalate (stretch :: stretches) = stretch ++ stretches.flatMap (',' :: ·) := by
  induction stretches generalizing stretch with
  | nil => simp
  | cons next stretches ih => rw [List.intercalate_cons_cons, ih]; simp

theorem readMembers_start {text rest : List Char} {c : Char} (skipped : skipBlanks text = c :: rest)
    (notBrace : c ≠ '}') :
    readMembers text = (do
      let (member, after) ← readMember (c :: rest)
      let (members, last) ← readFurther after
      return (member :: members, last)) := by
  simp [readMembers, skipped, notBrace]

private theorem readMembers_append {members : List Member} {stretches : List (List Char)}
    (spelled : SpellMembers members stretches) (filled : members ≠ []) (text : List Char) :
    readMembers ([','].intercalate stretches ++ text) =
      (readFurther text).map fun (further, last) => (members ++ further, last) := by
  cases spelled with
  | nil => contradiction
  | @cons member stretch members stretches head tail =>
    obtain ⟨front, core, back, frontBlank, spelled, backBlank, rfl⟩ := head
    have read := readMember_eq_ok_iff.mpr
      ⟨core, spelled, (rfl : _ = core ++ (back ++ stretches.flatMap (',' :: ·) ++ text))⟩
    have further := readFurther_append tail backBlank text
    obtain ⟨behind, rfl⟩ := spelled.notBlank
    have skipped : skipBlanks
        ([','].intercalate ((front ++ '\"' :: behind ++ back) :: stretches) ++ text) =
        '\"' :: (behind ++ (back ++ stretches.flatMap (',' :: ·) ++ text)) := by
      rw [intercalate_comma_cons]
      exact skipBlanks_eq_cons_iff.mpr ⟨by decide, front, frontBlank, by simp⟩
    rw [List.cons_append] at read
    rw [readMembers_start skipped (by decide), read]
    simp only [bind, Except.bind, further]
    cases readFurther text <;> rfl

private theorem readMembers_eq_ok_iff {text rest : List Char} {members : List Member} :
    readMembers text = .ok (members, rest) ↔
      ∃ object, SpellsObject members object ∧ '{' :: text = object ++ rest := by
  constructor
  · intro read
    unfold readMembers at read
    split at read
    · contradiction
    · next skipped =>
      cases read
      obtain ⟨_, blanks, blank, rfl⟩ := skipBlanks_eq_cons_iff.mp skipped
      exact ⟨_, .empty blank, by simp⟩
    · obtain ⟨⟨member, afterFirst⟩, first, read⟩ := bind_eq_ok_iff.mp read
      obtain ⟨⟨further, last⟩, others, read⟩ := bind_eq_ok_iff.mp read
      cases read
      obtain ⟨front, frontBlank, whole⟩ := exists_blanks text
      obtain ⟨core, spelled, behind⟩ := readMember_eq_ok_iff.mp first
      obtain ⟨back, stretches, backBlank, tail, rfl⟩ := exists_spelled_of_readFurther others
      have head : Spaced member.Spells (front ++ core ++ back) :=
        ⟨front, core, back, frontBlank, spelled, backBlank, rfl⟩
      refine ⟨_, .filled (List.cons_ne_nil _ _) (.cons head tail), ?_⟩
      rw [whole, behind, intercalate_comma_cons]
      simp
  · rintro ⟨_, spelled, whole⟩
    cases spelled with
    | @empty blanks blank =>
      have skipped : skipBlanks text = '}' :: rest :=
        skipBlanks_eq_cons_iff.mpr ⟨by decide, blanks, blank, by simpa using whole⟩
      simp [readMembers, skipped]
    | @filled _ stretches filled spelled =>
      obtain rfl : text = [','].intercalate stretches ++ '}' :: rest := by simpa using whole
      rw [readMembers_append spelled filled, readFurther_eq, skipBlanks_cons (by decide)]
      simp [Except.map]

/-! ## Contents -/

theorem readWord_eq_ok_iff {letters text rest : List Char} :
    readWord letters text = .ok rest ↔ text = letters ++ rest := by
  induction letters generalizing text with
  | nil => simp [readWord]
  | cons letter letters ih =>
    cases text with
    | nil => simp [readWord]
    | cons c text =>
      by_cases same : c = letter
      · simp [readWord, same, ih]
      · simp [readWord, same]

private theorem readContent_object {front text : List Char} (blank : Blanks front) :
    readContent (front ++ '{' :: text) = readMembers text := by
  have skipped : skipBlanks (front ++ '{' :: text) = '{' :: text :=
    skipBlanks_eq_cons_iff.mpr ⟨by decide, front, blank, rfl⟩
  rw [readContent, skipped]
  rfl

private theorem readContent_eq_ok_iff {text rest : List Char} {members : List Member} :
    readContent text = .ok (members, rest) ↔
      ∃ front content, Blanks front ∧ SpellsContent members content ∧
        text = front ++ content ++ rest := by
  constructor
  · intro read
    unfold readContent at read
    split at read
    · next behind skipped =>
      obtain ⟨_, front, blank, rfl⟩ := skipBlanks_eq_cons_iff.mp skipped
      cases word : readWord ['u', 'l', 'l'] behind with
      | error => simp [word, Except.map] at read
      | ok after =>
        simp only [word, Except.map, Except.ok.injEq, Prod.mk.injEq] at read
        obtain ⟨rfl, rfl⟩ := read
        rw [readWord_eq_ok_iff.mp word]
        exact ⟨front, _, blank, .null, by simp⟩
    · next behind skipped =>
      obtain ⟨_, front, blank, rfl⟩ := skipBlanks_eq_cons_iff.mp skipped
      obtain ⟨object, spelled, whole⟩ := readMembers_eq_ok_iff.mp read
      exact ⟨front, object, blank, .object spelled, by rw [whole, List.append_assoc]⟩
    · contradiction
  · rintro ⟨front, content, blank, spelled, rfl⟩
    cases spelled with
    | object spelled =>
      obtain ⟨text, rfl⟩ : ∃ text, content = '{' :: text := by
        cases spelled <;> exact ⟨_, rfl⟩
      rw [List.append_assoc, List.cons_append, readContent_object blank]
      exact readMembers_eq_ok_iff.mpr ⟨_, spelled, rfl⟩
    | null =>
      have skipped : skipBlanks (front ++ "null".toList ++ rest) =
          'n' :: (['u', 'l', 'l'] ++ rest) :=
        skipBlanks_eq_cons_iff.mpr ⟨by decide, front, blank, by simp⟩
      have word := readWord_eq_ok_iff.mpr (rfl : ['u', 'l', 'l'] ++ rest = ['u', 'l', 'l'] ++ rest)
      rw [readContent, skipped]
      exact congrArg (Except.map fun after => ([], after)) word

/-- Reading accepts the contents among blanks, with the members that they spell, and nothing
else. -/
theorem readFlatObject_eq_ok_iff {text : List Char} {members : List Member} :
    readFlatObject text = .ok members ↔ Spaced (SpellsContent members) text := by
  constructor
  · intro read
    obtain ⟨⟨found, back⟩, content, read⟩ := bind_eq_ok_iff.mp read
    dsimp only at read
    split at read
    · next ended =>
      cases read
      obtain ⟨front, core, blank, spelled, whole⟩ := readContent_eq_ok_iff.mp content
      exact ⟨front, core, back, blank, spelled, skipBlanks_eq_nil_iff.mp ended, whole⟩
    · contradiction
  · rintro ⟨front, core, back, blank, spelled, backBlank, rfl⟩
    have content := readContent_eq_ok_iff.mpr
      ⟨front, core, blank, spelled, (rfl : _ = front ++ core ++ back)⟩
    refine bind_eq_ok_iff.mpr ⟨_, content, ?_⟩
    simp [skipBlanks_eq_nil_iff.mpr backBlank, pure, Except.pure]

/-! ## Texts outside the grammar -/

/-- A text that goes on after its content is rejected. -/
theorem readFlatObject_append_error {members : List Member} {text more : List Char}
    (spelled : Spaced (SpellsContent members) text) (goesOn : ¬ Blanks more) :
    ∃ fault, readFlatObject (text ++ more) = .error fault := by
  obtain ⟨front, core, back, blank, spelled, _, rfl⟩ := spelled
  have content := readContent_eq_ok_iff.mpr
    ⟨front, core, blank, spelled, List.append_assoc (front ++ core) back more⟩
  have left : skipBlanks (back ++ more) ≠ [] := by
    rw [Ne, skipBlanks_eq_nil_iff]
    exact fun blank => goesOn (List.forall_mem_append.mp blank).2
  -- With something left, the last match of the reader can only take its second branch.
  simp only [readFlatObject, content, bind, Except.bind]
  exact ⟨_, rfl⟩

private theorem readMember_label_error {key quoted gap rest : List Char}
    (spelled : SpellsQuoted key quoted)
    (blank : Blanks gap) (other : ∀ blanks, Blanks blanks → ¬ blanks ++ ['\"'] <+: rest) :
    ∃ fault, readMember (quoted ++ gap ++ ':' :: rest) = .error fault := by
  obtain ⟨body, spelled, rfl⟩ := spelled
  have keyRead := readText_eq_ok_iff.mpr
    ⟨body, spelled, (rfl : _ = body ++ '\"' :: (gap ++ ':' :: rest))⟩
  have colonRead := readColon_eq_ok_iff.mpr ⟨gap, blank, (rfl : _ = gap ++ ':' :: rest)⟩
  cases valueRead : readValue rest with
  | ok pair =>
    obtain ⟨front, _, frontBlank, ⟨body, _, rfl⟩, rfl⟩ := readValue_eq_ok_iff.mp valueRead
    exact absurd ⟨body ++ '\"' :: pair.2, by simp⟩ (other front frontBlank)
  | error fault =>
    refine ⟨fault, ?_⟩
    simp only [List.cons_append, List.append_assoc, List.nil_append]
    simp [readMember, keyRead, colonRead, valueRead, bind, Except.bind]

private theorem readMembers_error {members : List Member} {stretches : List (List Char)}
    {stretch behind : List Char} {fault : Fault} (spelled : SpellMembers members stretches)
    (skipped : skipBlanks stretch = '\"' :: behind)
    (read : readMember ('\"' :: behind) = .error fault) :
    readMembers ([','].intercalate (stretches ++ [stretch])) = .error fault := by
  cases stretches with
  | nil =>
    rw [List.nil_append, List.intercalate_singleton, readMembers_start skipped (by decide), read]
    rfl
  | cons first stretches =>
    have filled : members ≠ [] := by
      rintro rfl
      cases spelled
    have next : readNextMember stretch = .error fault := by
      rw [readNextMember, skipped]
      exact read
    have whole : [','].intercalate (first :: stretches ++ [stretch]) =
        [','].intercalate (first :: stretches) ++ ',' :: stretch := by
      rw [List.cons_append, intercalate_comma_cons, intercalate_comma_cons]
      simp
    rw [whole, readMembers_append spelled filled, readFurther_eq, skipBlanks_cons (by decide)]
    simp only [next]
    rfl

/-- An object with a member that is no text is rejected. -/
theorem HasOtherMember.error {text : List Char} (found : HasOtherMember text) :
    ∃ fault, readFlatObject text = .error fault := by
  obtain ⟨front, members, stretches, key, _, rest, blank, spelled,
    ⟨start, quoted, gap, startBlank, keySpelled, gapBlank, rfl⟩, other, rfl⟩ := found
  obtain ⟨fault, read⟩ := readMember_label_error keySpelled gapBlank other
  obtain ⟨body, _, rfl⟩ := keySpelled
  have skipped : skipBlanks (start ++ ('\"' :: body ++ ['\"']) ++ gap ++ ':' :: rest) =
      '\"' :: body ++ ['\"'] ++ gap ++ ':' :: rest :=
    skipBlanks_eq_cons_iff.mpr ⟨by decide, start, startBlank, by simp⟩
  refine ⟨fault, ?_⟩
  rw [readFlatObject, readContent_object blank, readMembers_error spelled skipped read]
  rfl

end Splice.Secret
