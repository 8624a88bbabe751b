import Mathlib.Data.List.Induction
import Mathlib.Data.List.Nodup
import Splice.Proofs.CommandLine.Words

/-! # The choice of values that a command line spells

Options that are taken in leave the text that each key got, and nothing of their order:
`foldlM_take_eq_ok_iff` is the invariant of the loop over them. From it follow which command lines
are refused (`isRefused_iff`) and that the others read as the values that they were written for. The
main statement is `parse_spelled`.
-/

namespace Splice.CommandLine

open scoped List

/-! ## Timeouts -/

/-- Digits write a number in the decimal system. -/
structure IsDecimal (text : List Char) (value : Nat) : Prop where
  filled : text ≠ []
  digits : ∀ c ∈ text, c.isDigit = true
  value : Nat.ofDigitChars 10 text 0 = value

/-- A decimal integer: digits behind a sign, or alone. -/
inductive IsInteger : List Char → Int → Prop
  | unsigned {digits : List Char} {value : Nat} : IsDecimal digits value → IsInteger digits value
  | plus {digits : List Char} {value : Nat} : IsDecimal digits value →
      IsInteger ('+' :: digits) value
  | minus {digits : List Char} {value : Nat} : IsDecimal digits value →
      IsInteger ('-' :: digits) (-value)

/-- A text that writes a number of seconds from one to the largest. -/
def IsTimeout (text : String) (seconds : Nat) : Prop :=
  IsInteger text.toList seconds ∧ 1 ≤ seconds ∧ seconds ≤ Nat.pow 2 64 - 1

private theorem isInteger_iff {text : List Char} {value : Nat} (positive : 1 ≤ value) :
    IsInteger text value ↔ IsDecimal text value ∨ ∃ digits, text = '+' :: digits ∧
      IsDecimal digits value := by
  constructor
  · intro written
    generalize same : (value : Int) = number at written
    cases written with
    | unsigned decimal =>
      obtain rfl := Int.ofNat.inj same
      exact .inl decimal
    | plus decimal =>
      obtain rfl := Int.ofNat.inj same
      exact .inr ⟨_, rfl, decimal⟩
    | minus decimal => omega
  · rintro (decimal | ⟨digits, rfl, decimal⟩)
    · exact .unsigned decimal
    · exact .plus decimal

/-- What stands behind the plus sign, or the whole text. -/
def unsigned (text : List Char) : List Char :=
  match text with
  | '+' :: rest => rest
  | rest => rest

private theorem isDecimal_unsigned_iff {text : List Char} {value : Nat} :
    IsDecimal (unsigned text) value ↔
      IsDecimal text value ∨ ∃ digits, text = '+' :: digits ∧ IsDecimal digits value := by
  unfold unsigned
  split
  · next rest =>
    constructor
    · exact fun decimal => .inr ⟨rest, rfl, decimal⟩
    · rintro (decimal | ⟨_, ⟨⟩, decimal⟩)
      · exact absurd (decimal.digits '+' (by simp)) (by decide)
      · exact decimal
  · next signless =>
    constructor
    · exact .inl
    · rintro (decimal | ⟨digits, same, _⟩)
      · exact decimal
      · exact absurd same (signless digits)

private theorem timeout?_eq (text : List Char) :
    timeout? text =
      if (unsigned text).isEmpty || !(unsigned text).all Char.isDigit then none
      else if 1 ≤ Nat.ofDigitChars 10 (unsigned text) 0 ∧
          Nat.ofDigitChars 10 (unsigned text) 0 ≤ greatestTimeout then
        some (Nat.ofDigitChars 10 (unsigned text) 0)
      else none := by
  simp only [Nat.ofDigitChars_eq_foldl, Nat.mul_comm 10]
  rfl

theorem timeout?_eq_some_iff {text : String} {seconds : Nat} :
    timeout? text.toList = some seconds ↔ IsTimeout text seconds := by
  have greatest : greatestTimeout = Nat.pow 2 64 - 1 := rfl
  have decimal : timeout? text.toList = some seconds ↔
      IsDecimal (unsigned text.toList) seconds ∧ 1 ≤ seconds ∧ seconds ≤ Nat.pow 2 64 - 1 := by
    rw [timeout?_eq, greatest]
    generalize unsigned text.toList = digits
    constructor
    · intro read
      split at read
      · contradiction
      · next accepted =>
        split at read
        · next inside =>
          obtain rfl := Option.some.inj read
          exact ⟨⟨by grind, by grind, rfl⟩, inside⟩
        · contradiction
    · rintro ⟨⟨filled, digits, rfl⟩, inside⟩
      rw [if_neg (by grind), if_pos inside]
  rw [decimal, IsTimeout, isDecimal_unsigned_iff]
  exact and_congr_left fun inside => (isInteger_iff inside.1).symm

/-! ## Options taken in -/

namespace Given

/-- What an option is about: its key, or the verbose switch. -/
def slot : Given → Option Key
  | option key _ => some key
  | verbose => none

/-- The value of an option is one that its key can have. -/
def IsSound : Given → Prop
  | option .source text | option .dest text => text ≠ ""
  | option .timeout text => ∃ seconds, IsTimeout text seconds
  | option _ _ | verbose => True

end Given

namespace Draft

/-- A draft with an option in its place. -/
def put (draft : Draft) : Given → Draft
  | .option .source text => { draft with source := some text }
  | .option .dest text => { draft with dest := some text }
  | .option .env text => { draft with env := some text }
  | .option .region text => { draft with region := some text }
  | .option .profile text => { draft with profile := some text }
  | .option .timeout text => { draft with timeout := timeout? text.toList }
  | .verbose => { draft with verbose := true }

/-- An option was taken in already. -/
def holds (draft : Draft) : Option Key → Bool
  | some key => draft.has key
  | none => draft.verbose

private theorem take_eq_ok_iff {draft after : Draft} {given : Given} :
    draft.take given = .ok after ↔
      draft.holds given.slot = false ∧ given.IsSound ∧ draft.put given = after := by
  cases given with
  | verbose =>
    cases on : draft.verbose <;> simp [take, turnOn, holds, Given.slot, Given.IsSound, put, on]
  | option key text =>
    have timed : (∃ seconds, IsTimeout text seconds) ↔ (timeout? text.toList).isSome := by
      simp only [← timeout?_eq_some_iff, Option.isSome_iff_exists]
    cases occupied : draft.has key with
    | true => simp [take, set, holds, Given.slot, occupied]
    | false =>
      cases key
      case source | dest =>
        by_cases filled : text = "" <;>
          simp [take, set, holds, Given.slot, Given.IsSound, put, occupied, filled]
      case timeout =>
        cases read : timeout? text.toList <;>
          simp [take, set, holds, Given.slot, Given.IsSound, put, occupied, timed, read]
      all_goals simp [take, set, holds, Given.slot, Given.IsSound, put, occupied]

end Draft

/-! ## Options taken in one after the other -/

/-- The text that an option gives a key. -/
def Given.text? (given : Given) (key : Key) : Option String :=
  match given with
  | .option other text => if other = key then some text else none
  | .verbose => none

/-- The text that some options give a key. -/
def textIn (options : List Given) (key : Key) : Option String :=
  options.findSome? (·.text? key)

/-- What some options come to when they are taken in. -/
def Draft.ofOptions (options : List Given) : Draft where
  source := textIn options .source
  dest := textIn options .dest
  env := textIn options .env
  region := textIn options .region
  profile := textIn options .profile
  timeout := (textIn options .timeout).bind (timeout? ·.toList)
  verbose := options.contains .verbose

/-- Each option is given once and has a value that it can have. -/
structure AreProper (options : List Given) : Prop where
  once : (options.map Given.slot).Nodup
  sound : ∀ given ∈ options, given.IsSound

private theorem areProper_append_singleton {options : List Given} {given : Given} :
    AreProper (options ++ [given]) ↔
      AreProper options ∧ given.slot ∉ options.map Given.slot ∧ given.IsSound := by
  constructor
  · rintro ⟨once, sound⟩
    rw [List.map_append, List.map_singleton, List.nodup_append_comm] at once
    obtain ⟨fresh, once⟩ := List.nodup_cons.mp once
    exact ⟨⟨once, fun other member => sound other (by simp [member])⟩, fresh, sound given (by simp)⟩
  · rintro ⟨⟨once, sound⟩, fresh, last⟩
    constructor
    · rw [List.map_append, List.map_singleton, List.nodup_append_comm]
      exact List.nodup_cons.mpr ⟨fresh, once⟩
    · intro other member
      rcases List.mem_append.mp member with member | member
      · exact sound other member
      · rwa [List.mem_singleton.mp member]

private theorem Given.text?_eq_some_iff {given : Given} {key : Key} {text : String} :
    given.text? key = some text ↔ given = .option key text := by
  cases given <;> simp [text?]

theorem mem_of_textIn {options : List Given} {key : Key} {text : String}
    (found : textIn options key = some text) : .option key text ∈ options := by
  obtain ⟨given, member, here⟩ := List.exists_of_findSome?_eq_some found
  rwa [← Given.text?_eq_some_iff.mp here]

theorem textIn_isSome_iff {options : List Given} {key : Key} :
    (textIn options key).isSome = true ↔ some key ∈ options.map Given.slot := by
  have about (given : Given) : (given.text? key).isSome = true ↔ given.slot = some key := by
    cases given <;> simp [Given.text?, Given.slot]
  rw [textIn, List.findSome?_isSome_iff, List.mem_map]
  simp only [about]

private theorem textIn_eq_some_iff {options : List Given} (once : (options.map Given.slot).Nodup)
    {key : Key} {text : String} : textIn options key = some text ↔ .option key text ∈ options := by
  constructor
  · exact mem_of_textIn
  · intro member
    have given : some key ∈ options.map Given.slot := List.mem_map_of_mem member
    obtain ⟨other, found⟩ := Option.isSome_iff_exists.mp (textIn_isSome_iff.mpr given)
    have same := List.inj_on_of_nodup_map once (mem_of_textIn found) member rfl
    cases same
    exact found

namespace Draft

private theorem ofOptions_append_singleton {options : List Given} {given : Given}
    (fresh : given.slot ∉ options.map Given.slot) :
    ofOptions (options ++ [given]) = (ofOptions options).put given := by
  have last (key : Key) : textIn (options ++ [given]) key =
      (textIn options key).or (given.text? key) := by
    simp [textIn]
  cases given with
  | verbose => simp [ofOptions, put, last, Given.text?]
  | option key text =>
    have first : textIn options key = none := by
      rw [← Option.not_isSome_iff_eq_none, textIn_isSome_iff]
      exact fresh
    cases key <;> simp [ofOptions, put, last, first, Given.text?]

private theorem holds_ofOptions {options : List Given} (sound : ∀ given ∈ options, given.IsSound)
    (slot : Option Key) :
    (ofOptions options).holds slot = true ↔ slot ∈ options.map Given.slot := by
  cases slot with
  | none =>
    have switch (given : Given) : given.slot = none ↔ given = .verbose := by
      cases given <;> simp [Given.slot]
    simp [holds, ofOptions, switch]
  | some key =>
    rw [← textIn_isSome_iff]
    cases key
    case timeout =>
      change ((textIn options .timeout).bind _).isSome = true ↔ _
      cases found : textIn options .timeout with
      | none => rfl
      | some text =>
        obtain ⟨seconds, timed⟩ := sound _ (mem_of_textIn found)
        simp [timeout?_eq_some_iff.mpr timed]
    all_goals rfl

/-- Taking in options succeeds exactly if they are proper, in whichever order they come. -/
theorem foldlM_take_eq_ok_iff {options : List Given} {after : Draft} :
    options.foldlM take {} = .ok after ↔ AreProper options ∧ ofOptions options = after := by
  -- by induction from the end: what was taken in so far is the draft of the options in front
  induction options using List.reverseRecOn generalizing after with
  | nil =>
    have proper : AreProper [] := ⟨List.nodup_nil, by simp⟩
    exact ⟨fun read => ⟨proper, Except.ok.inj read⟩, fun both => congrArg Except.ok both.2⟩
  | append_singleton options given ih =>
    have lastStep : (options ++ [given]).foldlM take {} = .ok after ↔
        ∃ draft, options.foldlM take {} = .ok draft ∧ draft.take given = .ok after := by
      rw [List.foldlM_append]
      cases options.foldlM take {} with
      | error error =>
        change Except.error error = _ ↔ _
        simp
      | ok draft =>
        have last : [given].foldlM take draft = draft.take given := by
          rw [List.foldlM_cons]
          exact bind_pure _
        change [given].foldlM take draft = _ ↔ _
        simp [last]
    rw [lastStep, areProper_append_singleton]
    constructor
    · rintro ⟨draft, front, last⟩
      obtain ⟨proper, rfl⟩ := ih.mp front
      obtain ⟨free, sound, rfl⟩ := take_eq_ok_iff.mp last
      have fresh : given.slot ∉ options.map Given.slot := by
        rw [← holds_ofOptions proper.sound, free]
        exact Bool.false_ne_true
      exact ⟨⟨proper, fresh, sound⟩, ofOptions_append_singleton fresh⟩
    · rintro ⟨⟨proper, fresh, sound⟩, rfl⟩
      refine ⟨ofOptions options, ih.mpr ⟨proper, rfl⟩, take_eq_ok_iff.mpr ⟨?_, sound, ?_⟩⟩
      · rwa [← holds_ofOptions proper.sound, Bool.not_eq_true] at fresh
      · exact (ofOptions_append_singleton fresh).symm

private theorem isAnswer_of_foldlM_take {draft : Draft} {options : List Given} {error : UsageError}
    (refused : options.foldlM take draft = .error error) : error.isAnswer = false := by
  induction options generalizing draft with
  | nil => contradiction
  | cons given rest ih =>
    rw [List.foldlM_cons] at refused
    cases first : draft.take given with
    | error other =>
      rw [first] at refused
      cases refused
      exact isAnswer_of_take first
    | ok next =>
      rw [first] at refused
      exact ih refused

end Draft

/-! ## Command lines -/

/-- Which command lines are refused, whatever the order and the spelling of their options are. -/
theorem isRefused_iff {options : List Given} {words : List String}
    (spelled : Spells options words)
    (envVariable : Option String) :
    IsRefused words envVariable ↔
      ¬ (AreProper options ∧ some .source ∈ options.map Given.slot) := by
  rw [IsRefused, parse_of_spells spelled]
  cases taken : options.foldlM Draft.take {} with
  | error error =>
    have improper : ¬ AreProper options := by
      intro proper
      have whole := Draft.foldlM_take_eq_ok_iff.mpr ⟨proper, rfl⟩
      rw [taken] at whole
      contradiction
    exact iff_of_true ⟨error, rfl, Draft.isAnswer_of_foldlM_take taken⟩
      (fun both => improper both.1)
  | ok draft =>
    obtain ⟨proper, rfl⟩ := Draft.foldlM_take_eq_ok_iff.mp taken
    change (∃ error, (Draft.ofOptions options).finish envVariable = .error error ∧ _) ↔ _
    have source : (Draft.ofOptions options).source = textIn options .source := rfl
    rw [← textIn_isSome_iff, Draft.finish, source]
    cases textIn options .source with
    | none => simp [UsageError.isAnswer]
    | some source => simp [proper]

/-- The values that a command line is to give. -/
structure Choice where
  text : Key → Option String
  verbose : Bool

namespace Choice

/-- The options that give the values of a choice. -/
def given (choice : Choice) : List Given :=
  [Key.source, .dest, .env, .region, .profile, .timeout].filterMap
    (fun key => (choice.text key).map (.option key)) ++ if choice.verbose then [.verbose] else []

private theorem option_mem_given {choice : Choice} {key : Key} {text : String} :
    .option key text ∈ choice.given ↔ choice.text key = some text := by
  have every : key ∈ [Key.source, .dest, .env, .region, .profile, .timeout] := by
    cases key <;> simp
  have last : .option key text ∉ if choice.verbose then [Given.verbose] else [] := by
    split <;> simp
  rw [given, List.mem_append, or_iff_left last, List.mem_filterMap]
  constructor
  · rintro ⟨other, _, same⟩
    obtain ⟨_, found, ⟨⟩⟩ := Option.map_eq_some_iff.mp same
    exact found
  · exact fun found => ⟨key, every, by rw [found, Option.map_some]⟩

private theorem verbose_mem_given {choice : Choice} :
    .verbose ∈ choice.given ↔ choice.verbose = true := by
  simp [given]

private theorem nodup_slots_given (choice : Choice) : (choice.given.map Given.slot).Nodup := by
  have front (keys : List Key) :
      (keys.filterMap fun key => (choice.text key).map (.option key)).map Given.slot <+
        keys.map some := by
    induction keys with
    | nil => exact .slnil
    | cons key rest ih =>
      cases found : choice.text key with
      | none => simpa [found] using ih.cons (some key)
      | some text => simpa [found, Given.slot] using ih
  have last : (if choice.verbose then [Given.verbose] else []).map Given.slot <+ [none] := by
    split
    · exact .refl _
    · exact List.nil_sublist _
  rw [given, List.map_append]
  exact ((front _).append last).nodup (by decide)

end Choice

private theorem ofOptions_of_perm {choice : Choice} {options : List Given}
    (ordered : options ~ choice.given) : Draft.ofOptions options = {
      source := choice.text .source
      dest := choice.text .dest
      env := choice.text .env
      region := choice.text .region
      profile := choice.text .profile
      timeout := (choice.text .timeout).bind (timeout? ·.toList)
      verbose := choice.verbose } := by
  have once : (options.map Given.slot).Nodup :=
    (ordered.map Given.slot).nodup_iff.mpr choice.nodup_slots_given
  have text (key : Key) : textIn options key = choice.text key := by
    ext text
    rw [textIn_eq_some_iff once, ordered.mem_iff, Choice.option_mem_given]
  have verbose : options.contains .verbose = choice.verbose := by
    rw [Bool.eq_iff_iff, List.contains_iff_mem, ordered.mem_iff, Choice.verbose_mem_given]
  simp only [Draft.ofOptions, text, verbose]

private theorem parse_of_perm {choice : Choice} {options : List Given} {words : List String}
    (spelled : Spells options words) (ordered : options ~ choice.given) {source : String}
    (required : choice.text .source = some source) (filled : source ≠ "")
    (target : choice.text .dest ≠ some "") {seconds : Option Nat}
    (timed : Option.Rel IsTimeout (choice.text .timeout) seconds) (envVariable : Option String) :
    parse words envVariable = .ok {
      source := source
      dest := choice.text .dest
      env := (choice.text .env).getD (envVariable.getD "")
      region := choice.text .region
      profile := choice.text .profile
      timeout := seconds
      verbose := choice.verbose } := by
  have sound : ∀ given ∈ options, given.IsSound := by
    intro given member
    cases given with
    | verbose => trivial
    | option key text =>
      have chosen := Choice.option_mem_given.mp (ordered.mem_iff.mp member)
      cases key with
      | source =>
        rw [required] at chosen
        cases chosen
        exact filled
      | dest =>
        rintro rfl
        exact target chosen
      | timeout =>
        rw [chosen] at timed
        cases timed with
        | some written => exact ⟨_, written⟩
      | env | region | profile => trivial
  have proper : AreProper options :=
    ⟨(ordered.map Given.slot).nodup_iff.mpr choice.nodup_slots_given, sound⟩
  have read : (choice.text .timeout).bind (timeout? ·.toList) = seconds := by
    generalize choice.text .timeout = text at timed
    cases timed with
    | none => rfl
    | some written => exact timeout?_eq_some_iff.mpr written
  rw [parse_of_spells spelled, Draft.foldlM_take_eq_ok_iff.mpr ⟨proper, ofOptions_of_perm ordered⟩]
  change Draft.finish _ envVariable = _
  simp only [Draft.finish, required, read]
  cases choice.text .env <;> rfl

/-- A command line reads as the choice of values that it was written for, whatever the order and the
spelling of its options, and the environment name falls back to the variable. One without a source,
with an option given twice, with a bad timeout, with an unknown option put in or with a positional
argument put in is refused. -/
theorem parse_spelled {options : List Given} {words : List String} (spelled : Spells options words)
    (envVariable : Option String) :
    (∀ (choice : Choice) (source : String) (seconds : Option Nat),
      options ~ choice.given → choice.text .source = some source → source ≠ "" →
      choice.text .dest ≠ some "" → Option.Rel IsTimeout (choice.text .timeout) seconds →
      parse words envVariable = .ok {
        source := source
        dest := choice.text .dest
        env := (choice.text .env).getD (envVariable.getD "")
        region := choice.text .region
        profile := choice.text .profile
        timeout := seconds
        verbose := choice.verbose }) ∧
    ((∀ source, .option .source source ∉ options) → IsRefused words envVariable) ∧
    (∀ key first second, [.option key first, .option key second] <+ options →
      IsRefused words envVariable) ∧
    (∀ text, .option .timeout text ∈ options → (¬ ∃ seconds, IsTimeout text seconds) →
      IsRefused words envVariable) ∧
    ∀ front back, words = front ++ back →
      (∀ word behind, IsUnknown word → IsRefused (front ++ word :: behind) envVariable) ∧
      ∀ word, IsPositional word → IsRefused (front ++ word :: back) envVariable := by
  refine ⟨?choice, ?source, ?twice, ?timeout, ?added⟩
  case choice =>
    intro choice source seconds ordered required filled target timed
    exact parse_of_perm spelled ordered required filled target timed envVariable
  case source =>
    intro missing
    rw [isRefused_iff spelled]
    rintro ⟨_, given⟩
    obtain ⟨source, found⟩ := Option.isSome_iff_exists.mp (textIn_isSome_iff.mpr given)
    exact missing source (mem_of_textIn found)
  case twice =>
    intro key first second both
    rw [isRefused_iff spelled]
    rintro ⟨proper, _⟩
    have pair := proper.once.sublist (both.map Given.slot)
    simp [Given.slot] at pair
  case timeout =>
    intro text member bad
    rw [isRefused_iff spelled]
    rintro ⟨proper, _⟩
    exact bad (proper.sound _ member)
  case added =>
    rintro front back rfl
    exact ⟨fun word behind unknown => isRefused_of_unknown spelled unknown behind envVariable,
      fun word positional => isRefused_of_positional spelled positional envVariable⟩

/-- A command line with its options out of order, and the same with a word put in. -/
theorem parse_spelled_shuffled :
    parse ["-v", "--timeout", "+9", "--out=o", "-s", "i"] (some "prod") =
        .ok { source := "i", dest := some "o", env := "prod", region := none, profile := none,
              timeout := some 9, verbose := true } ∧
      IsRefused ["-v", "--timeout", "more", "+9", "--out=o", "-s", "i"] (some "prod") := by
  have spelled : Spells
      [.verbose, .option .timeout "+9", .option .dest "o", .option .source "i"]
      ["-v", "--timeout", "+9", "--out=o", "-s", "i"] :=
    .cons .verboseLetter <|
      .cons (@Given.Spells.next .timeout "timeout" "+9" (by decide) (by decide)) <|
      .cons (@Given.Spells.attached .dest "out" "o" (by decide)) <|
      .cons (@Given.Spells.letter .source 's' "i" (by decide) (by decide)) .nil
  have digit : IsDecimal ['9'] 9 := ⟨by decide, List.forall_mem_singleton.mpr rfl, by decide⟩
  have nine : IsTimeout "+9" 9 := ⟨.plus digit, by decide, by decide⟩
  let choice : Choice := {
    text := fun
      | .source => some "i"
      | .dest => some "o"
      | .timeout => some "+9"
      | _ => none
    verbose := true }
  obtain ⟨reads, _, _, _, added⟩ := parse_spelled spelled (some "prod")
  exact ⟨reads choice "i" (some 9) (by decide) rfl (by decide) (by decide) (.some nine),
    (added ["-v", "--timeout"] _ rfl).2 "more" (by decide)⟩

end Splice.CommandLine
