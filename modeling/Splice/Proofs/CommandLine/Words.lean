import Mathlib.Data.List.TakeWhile
import Splice.CommandLine

/-! # The words of a command line

An option is written in one word or in two, and one in two words is taken in only when the next one
comes. `parse_of_spells` says that reading a command line still comes to taking in one option after
the other, and `isRefused_of_unknown` and `isRefused_of_positional` that a word put in between is
refused wherever it stands.
-/

namespace Splice.CommandLine

/-! ## Names and letters -/

namespace Key

/-- The long names of an option with a value. -/
def names : Key → List String
  | source => ["source", "file"]
  | dest => ["dest", "out"]
  | env => ["env"]
  | region => ["region"]
  | profile => ["profile"]
  | timeout => ["timeout"]

/-- The letters of an option with a value. -/
def letters : Key → List Char
  | source => ['s']
  | dest => ['d']
  | _ => []

private theorem ofLong?_eq_some_iff {key : Key} {name : String} :
    ofLong? name = some key ↔ name ∈ key.names := by
  constructor
  · intro known
    unfold ofLong? at known
    split at known <;> cases known <;> simp [names]
  · intro listed
    cases key <;> simp only [names, List.mem_cons, List.not_mem_nil, or_false] at listed <;>
      rcases listed with rfl | rfl <;> rfl

private theorem ofLetter?_eq_some_iff {key : Key} {letter : Char} :
    ofLetter? letter = some key ↔ letter ∈ key.letters := by
  constructor
  · intro known
    unfold ofLetter? at known
    split at known <;> cases known <;> simp [letters]
  · intro listed
    cases key <;> simp [letters] at listed <;> subst listed <;> rfl

private theorem plain_of_mem_names {key : Key} {name : String} (listed : name ∈ key.names) :
    name ≠ "" ∧ '=' ∉ name.toList := by
  have all : ∀ name ∈ key.names, name ≠ "" ∧ '=' ∉ name.toList := by cases key <;> decide
  exact all name listed

end Key

namespace Switch

/-- The long name of an option without a value. -/
def name : Switch → String
  | verbose => "verbose"
  | help => "help"
  | version => "version"

/-- The letter of an option without a value. -/
def letter : Switch → Char
  | verbose => 'v'
  | help => 'h'
  | version => 'V'

private theorem ofLong?_eq_some_iff {switch : Switch} {name : String} :
    ofLong? name = some switch ↔ name = switch.name := by
  constructor
  · intro known
    unfold ofLong? at known
    split at known <;> cases known <;> rfl
  · rintro rfl
    cases switch <;> rfl

private theorem ofLetter?_eq_some_iff {switch : Switch} {letter : Char} :
    ofLetter? letter = some switch ↔ letter = switch.letter := by
  constructor
  · intro known
    unfold ofLetter? at known
    split at known <;> cases known <;> rfl
  · rintro rfl
    cases switch <;> rfl

end Switch

/-- The word that gives a long option, with a value attached to it or without. -/
def longWord (name : String) : Option String → String
  | none => "--" ++ name
  | some text => "--" ++ name ++ "=" ++ text

/-! ## Options as they are written -/

/-- An option as it is given: one with a value, or the one without. -/
inductive Given
  | option (key : Key) (text : String)
  | verbose
  deriving DecidableEq, Repr

/-- A word that can stand for the value of an option. -/
def IsPlain (word : String) : Prop :=
  ¬ ['-'] <+: word.toList

instance : DecidablePred IsPlain := fun word =>
  inferInstanceAs (Decidable (¬ ['-'] <+: word.toList))

/-- A word that is no option. A dash alone is none. -/
def IsPositional (word : String) : Prop :=
  word = "-" ∨ IsPlain word

instance : DecidablePred IsPositional := fun word =>
  inferInstanceAs (Decidable (word = "-" ∨ IsPlain word))

/-- The ways to write an option. A value that is a word of its own does not begin with a dash. -/
inductive Given.Spells : Given → List String → Prop
  | attached {key : Key} {name : String} (text : String) : name ∈ key.names →
      Spells (.option key text) [longWord name (some text)]
  | next {key : Key} {name text : String} : name ∈ key.names → IsPlain text →
      Spells (.option key text) [longWord name none, text]
  | letter {key : Key} {letter : Char} {text : String} : letter ∈ key.letters → IsPlain text →
      Spells (.option key text) [String.ofList ['-', letter], text]
  | verboseName : Spells .verbose ["--verbose"]
  | verboseLetter : Spells .verbose ["-v"]

/-- The words of a command line write its options one after the other. -/
inductive Spells : List Given → List String → Prop
  | nil : Spells [] []
  | cons {given : Given} {rest : List Given} {front back : List String} :
      given.Spells front → Spells rest back → Spells (given :: rest) (front ++ back)

/-- Takes in an option that is given. -/
def Draft.take (draft : Draft) : Given → Except UsageError Draft
  | .option key text => draft.set key text
  | .verbose => draft.turnOn .verbose

namespace Progress

variable {progress : Progress} {key : Key} {word text : String}

/-! ## Single words -/

/-- What a long option comes to is decided by its name. -/
theorem meet_long {name : String} {attached : Option String}
    (more : progress.onlyPositional = false) (plain : '=' ∉ name.toList)
    (filled : longWord name attached ≠ "--") :
    progress.meet (longWord name attached) =
      match Key.ofLong? name, Switch.ofLong? name with
      | some key, _ => progress.meetKey key attached
      | none, some switch =>
        if attached.isSome then .error .unwantedValue else progress.meetSwitch switch
      | none, none => .error .unknownWord := by
  have passed : ∀ c ∈ name.toList, (c != '=') = true := by
    intro c member
    rw [bne_iff_ne]
    rintro rfl
    exact plain member
  have dashed {text : List Char} (written : (longWord name attached).toList = '-' :: '-' :: text) :
      progress.meet (longWord name attached) = progress.meetLong text := by
    unfold meet
    rw [more, written]
    cases text with
    | nil =>
      have same : (longWord name attached).toList = "--".toList := by simpa using written
      exact absurd (String.toList_inj.mp same) filled
    | cons c rest => rfl
  cases attached with
  | none =>
    have front : name.toList.takeWhile (· != '=') = name.toList :=
      List.takeWhile_eq_self_iff.mpr passed
    have back : name.toList.dropWhile (· != '=') = [] := List.dropWhile_eq_nil_iff.mpr passed
    have written : (longWord name none).toList = '-' :: '-' :: name.toList := by simp [longWord]
    cases keyed : Key.ofLong? name <;> cases switched : Switch.ofLong? name <;>
      simp only [dashed written, meetLong, front, back, String.ofList_toList, keyed, switched]
  | some text =>
    have front : (name.toList ++ '=' :: text.toList).takeWhile (· != '=') = name.toList := by
      simp [List.takeWhile_append_of_pos passed]
    have back : (name.toList ++ '=' :: text.toList).dropWhile (· != '=') = '=' :: text.toList := by
      simp [List.dropWhile_append_of_pos passed]
    have written : (longWord name (some text)).toList =
        '-' :: '-' :: (name.toList ++ '=' :: text.toList) := by simp [longWord]
    cases keyed : Key.ofLong? name <;> cases switched : Switch.ofLong? name <;>
      simp only [dashed written, meetLong, front, back, String.ofList_toList, keyed, switched]

private theorem longWord_ne {name : String} (filled : name ≠ "") (attached : Option String) :
    longWord name attached ≠ "--" := by
  intro same
  rw [← String.toList_inj] at same
  cases attached <;> simp_all [longWord]

private theorem meet_key {name : String} (more : progress.onlyPositional = false)
    (known : name ∈ key.names) (attached : Option String) :
    progress.meet (longWord name attached) = progress.meetKey key attached := by
  obtain ⟨filled, plain⟩ := Key.plain_of_mem_names known
  rw [meet_long more plain (longWord_ne filled attached), Key.ofLong?_eq_some_iff.mpr known]

theorem meet_dash {letter : Char} (more : progress.onlyPositional = false) (single : letter ≠ '-')
    (rest : List Char) :
    progress.meet (String.ofList ('-' :: letter :: rest)) =
      progress.meetLetters (letter :: rest) := by
  unfold meet
  rw [more, String.toList_ofList]
  split
  · contradiction
  · split
    · next same => simp_all
    · next same => simp_all
    · next same =>
      cases same
      rfl
    · next other => exact absurd rfl (other _ _)

private theorem meet_letter {letter : Char} (more : progress.onlyPositional = false)
    (known : letter ∈ key.letters) :
    progress.meet (String.ofList ['-', letter]) = progress.meetKey key none := by
  have single : letter ≠ '-' := by
    rintro rfl
    cases key <;> simp [Key.letters] at known
  rw [meet_dash more single]
  simp only [meetLetters, Key.ofLetter?_eq_some_iff.mpr known]

private theorem meet_positional (more : progress.onlyPositional = false)
    (positional : IsPositional word) :
    progress.meet word = progress.meetPlain word := by
  have short {c : Char} {rest : List Char} : word.toList ≠ '-' :: c :: rest := by
    intro same
    rcases positional with rfl | plain
    · simp at same
    · simp [IsPlain, same] at plain
  unfold meet
  rw [more]
  split
  · contradiction
  · split
    · next same => exact absurd same short
    · next same => exact absurd same short
    · next same => exact absurd same short
    · rfl

private theorem meet_verbose (more : progress.onlyPositional = false) :
    progress.meet "--verbose" = progress.meetSwitch .verbose ∧
      progress.meet "-v" = progress.meetSwitch .verbose := by
  have noKey : Key.ofLong? "verbose" = none := by decide
  have noLetter : Key.ofLetter? 'v' = none := by decide
  have switchName : Switch.ofLong? "verbose" = some .verbose := by decide
  have switchLetter : Switch.ofLetter? 'v' = some .verbose := by decide
  constructor
  · have met := @meet_long progress "verbose" none more (by decide) (by decide)
    rw [noKey, switchName] at met
    exact met
  · have met := @meet_dash progress 'v' more (by decide) []
    simp only [meetLetters, noLetter, switchLetter] at met
    exact met.trans (bind_pure _)

/-! ## Whole options -/

/-- Options may follow, and none waits for its value. -/
def Rested (progress : Progress) : Prop :=
  progress.onlyPositional = false ∧ ∀ key, progress.waiting ≠ .value key

private theorem meetKey_none (progress : Progress) (key : Key) :
    progress.meetKey key none =
      progress.settle.map fun draft => { progress with draft := draft, waiting := .value key } := by
  rw [meetKey]
  cases progress.settle <;> rfl

private theorem meetKey_some (progress : Progress) (key : Key) (text : String) :
    progress.meetKey key (some text) =
      (progress.settle >>= (·.take (.option key text))).map fun draft =>
        { progress with draft := draft, waiting := .nothing } := by
  rw [meetKey]
  cases progress.settle with
  | error error => rfl
  | ok draft =>
    change (draft.set key text >>= fun draft => _) = (draft.set key text).map _
    cases draft.set key text <;> rfl

private theorem meetSwitch_verbose (progress : Progress) :
    progress.meetSwitch .verbose =
      (progress.settle >>= (·.take .verbose)).map fun draft =>
        { progress with draft := draft, waiting := .nothing } := by
  rw [meetSwitch]
  cases progress.settle with
  | error error => rfl
  | ok draft =>
    change (draft.turnOn .verbose >>= fun draft => _) = (draft.turnOn .verbose).map _
    cases draft.turnOn .verbose <;> rfl

private theorem settles_of_met {given : Given} (more : progress.onlyPositional = false)
    (met : progress.meet word = (progress.settle >>= (·.take given)).map fun draft =>
      { progress with draft := draft, waiting := .nothing }) :
    ([word].foldlM meet progress >>= settle) = (progress.settle >>= (·.take given)) ∧
      ∀ after, [word].foldlM meet progress = .ok after → after.Rested := by
  rw [List.foldlM_cons, met]
  cases progress.settle >>= (·.take given) with
  | error error =>
    refine ⟨rfl, fun after read => ?_⟩
    change Except.error error = Except.ok after at read
    contradiction
  | ok draft =>
    refine ⟨rfl, ?_⟩
    rintro _ ⟨⟩
    exact ⟨more, nofun⟩

private theorem settles_of_opened (more : progress.onlyPositional = false)
    (opens : progress.meet word = progress.meetKey key none) (plain : IsPlain text) :
    ([word, text].foldlM meet progress >>= settle) =
        (progress.settle >>= (·.take (.option key text))) ∧
      ∀ after, [word, text].foldlM meet progress = .ok after → after.Rested := by
  rw [List.foldlM_cons, opens, meetKey_none]
  cases progress.settle with
  | error error =>
    refine ⟨rfl, fun after read => ?_⟩
    change Except.error error = Except.ok after at read
    contradiction
  | ok draft =>
    have met : [text].foldlM meet { progress with draft := draft, waiting := .value key } =
        .ok { progress with draft := draft, waiting := .settling key text } := by
      rw [List.foldlM_cons, @meet_positional
        { progress with draft := draft, waiting := .value key } text more (.inr plain)]
      rfl
    change ([text].foldlM meet _ >>= settle) = draft.set key text ∧
      ∀ after, [text].foldlM meet _ = .ok after → after.Rested
    rw [met]
    refine ⟨rfl, ?_⟩
    rintro _ ⟨⟩
    exact ⟨more, nofun⟩

/-- An option is taken in behind the one that waits, however it is written. -/
theorem settles {given : Given} {words : List String} (spelled : given.Spells words)
    (more : progress.onlyPositional = false) :
    (words.foldlM meet progress >>= settle) = (progress.settle >>= (·.take given)) ∧
      ∀ after, words.foldlM meet progress = .ok after → after.Rested := by
  cases spelled with
  | attached text known =>
    exact settles_of_met more ((meet_key more known (some text)).trans (meetKey_some ..))
  | next known plain => exact settles_of_opened more (meet_key more known none) plain
  | letter known plain => exact settles_of_opened more (meet_letter more known) plain
  | verboseName => exact settles_of_met more ((meet_verbose more).1.trans (meetSwitch_verbose _))
  | verboseLetter => exact settles_of_met more ((meet_verbose more).2.trans (meetSwitch_verbose _))

private theorem settles_all {options : List Given} {words : List String}
    (spelled : Spells options words)
    (rested : progress.Rested) :
    (words.foldlM meet progress >>= settle) = progress.settle >>= options.foldlM Draft.take := by
  induction spelled generalizing progress with
  | nil =>
    change progress.settle = progress.settle >>= pure
    exact (bind_pure _).symm
  | @cons given rest front back spelled _ ih =>
    obtain ⟨settled, ends⟩ := settles spelled rested.1
    have taken : progress.settle >>= (given :: rest).foldlM Draft.take =
        (front.foldlM meet progress >>= settle) >>= rest.foldlM Draft.take := by
      rw [settled, bind_assoc]
      rfl
    rw [taken, List.foldlM_append]
    cases read : front.foldlM meet progress with
    | error error => rfl
    | ok after => exact ih (ends after read)

end Progress

/-- Reading a command line comes to taking in its options one after the other. -/
theorem parse_of_spells {options : List Given} {words : List String}
    (spelled : Spells options words) (envVariable : Option String) :
    parse words envVariable = options.foldlM Draft.take {} >>= (·.finish envVariable) := by
  have settled := @Progress.settles_all {} options words spelled ⟨rfl, nofun⟩
  change (words.foldlM Progress.meet {} >>= fun progress =>
    progress.settle >>= (·.finish envVariable)) = _
  rw [← bind_assoc, settled]
  rfl

/-! ## Refusals -/

/-- A command line is refused. Asking for help or for the version is not refused. -/
def IsRefused (words : List String) (envVariable : Option String) : Prop :=
  ∃ error, parse words envVariable = .error error ∧ error.isAnswer = false

theorem Draft.isAnswer_of_take {draft : Draft} {given : Given} {error : UsageError}
    (refused : draft.take given = .error error) : error.isAnswer = false := by
  cases given with
  | verbose =>
    simp only [take, turnOn] at refused
    split at refused <;> cases refused
    rfl
  | option key text => cases key <;> grind [take, set, UsageError.isAnswer]

namespace Progress

variable {progress : Progress}

private theorem isAnswer_of_settle {error : UsageError} (refused : progress.settle = .error error) :
    error.isAnswer = false := by
  unfold settle at refused
  split at refused
  · contradiction
  · cases refused
    rfl
  · next key text _ => exact @Draft.isAnswer_of_take _ (.option key text) _ refused

private theorem isAnswer_of_spells {given : Given} {words : List String} {error : UsageError}
    (spelled : given.Spells words) (more : progress.onlyPositional = false)
    (refused : words.foldlM meet progress = .error error) : error.isAnswer = false := by
  have settled := (settles spelled more).1
  rw [refused] at settled
  cases waits : progress.settle with
  | error other =>
    rw [waits] at settled
    cases settled
    exact isAnswer_of_settle waits
  | ok draft =>
    rw [waits] at settled
    exact Draft.isAnswer_of_take settled.symm

/-- What the loop over the words knows where a command line is cut before the words behind. -/
def StandsBefore (progress : Progress) (behind : List String) : Prop :=
  progress.onlyPositional = false ∧
    ∀ key, progress.waiting = .value key → ∃ text rest, behind = text :: rest ∧ IsPlain text

private theorem Rested.standsBefore (rested : progress.Rested) (behind : List String) :
    progress.StandsBefore behind :=
  ⟨rested.1, fun key waits => absurd waits (rested.2 key)⟩

private theorem cut_cases {given : Given} {front back : List String}
    (spelled : given.Spells (front ++ back)) (more : progress.onlyPositional = false) :
    front = [] ∨ back = [] ∨ ∃ word text key, front = [word] ∧ back = [text] ∧ IsPlain text ∧
      progress.meet word = progress.meetKey key none := by
  have single {word : String} (whole : [word] = front ++ back) : front = [] ∨ back = [] := by
    cases front with
    | nil => exact .inl rfl
    | cons first rest => exact .inr (List.append_eq_nil_iff.mp (List.cons.inj whole).2.symm).2
  have double {word text : String} {key : Key} (whole : [word, text] = front ++ back)
      (plain : IsPlain text) (opens : progress.meet word = progress.meetKey key none) :
      front = [] ∨ back = [] ∨ ∃ word text key, front = [word] ∧ back = [text] ∧ IsPlain text ∧
        progress.meet word = progress.meetKey key none := by
    match front, back, whole with
    | [], _, _ => exact .inl rfl
    | [_], [_], rfl => exact .inr (.inr ⟨_, _, _, rfl, rfl, plain, opens⟩)
    | [_, _], [], _ => exact .inr (.inl rfl)
  generalize whole : front ++ back = words at spelled
  cases spelled with
  | attached text known => exact (single whole.symm).imp id .inl
  | next known plain => exact double whole.symm plain (meet_key more known none)
  | letter known plain => exact double whole.symm plain (meet_letter more known)
  | verboseName => exact (single whole.symm).imp id .inl
  | verboseLetter => exact (single whole.symm).imp id .inl

private theorem meet_cut {options : List Given} {front back : List String}
    (spelled : Spells options (front ++ back)) (rested : progress.Rested) :
    (∃ error, front.foldlM meet progress = .error error ∧ error.isAnswer = false) ∨
      ∃ after, front.foldlM meet progress = .ok after ∧ after.StandsBefore back := by
  generalize whole : front ++ back = words at spelled
  induction spelled generalizing progress front with
  | nil =>
    obtain ⟨rfl, rfl⟩ := List.append_eq_nil_iff.mp whole
    exact .inr ⟨progress, rfl, rested.standsBefore []⟩
  | @cons given rest first others spelled _ ih =>
    have passes {more : List String} (split : front = first ++ more)
        (left : more ++ back = others) :
        (∃ error, front.foldlM meet progress = .error error ∧ error.isAnswer = false) ∨
          ∃ after, front.foldlM meet progress = .ok after ∧ after.StandsBefore back := by
      rw [split, List.foldlM_append]
      cases read : first.foldlM meet progress with
      | error error => exact .inl ⟨error, rfl, isAnswer_of_spells spelled rested.1 read⟩
      | ok after => exact ih ((settles spelled rested.1).2 after read) left
    rcases List.append_eq_append_iff.mp whole with ⟨more, split, left⟩ | ⟨more, split, left⟩
    · rw [split] at spelled
      rcases cut_cases spelled rested.1 with rfl | rfl | ⟨word, text, key, rfl, rfl, plain, opens⟩
      · exact .inr ⟨progress, rfl, rested.standsBefore back⟩
      · exact @passes [] (by simpa using split.symm) (by simpa using left)
      · rw [List.foldlM_cons, opens, meetKey_none]
        cases waits : progress.settle with
        | error error => exact .inl ⟨error, rfl, isAnswer_of_settle waits⟩
        | ok draft => exact .inr ⟨_, rfl, rested.1, fun _ _ => ⟨text, others, left, plain⟩⟩
    · exact passes split left.symm

end Progress

/-- A name that no option has. -/
structure IsUnknownName (name : String) : Prop where
  plain : '=' ∉ name.toList
  noKey : ∀ key : Key, name ∉ key.names
  noSwitch : ∀ switch : Switch, name ≠ switch.name

/-- A word that looks like an option and is none. -/
inductive IsUnknown : String → Prop
  | name {name : String} {attached : Option String} : IsUnknownName name →
      longWord name attached ≠ "--" → IsUnknown (longWord name attached)
  | letter {letter : Char} (rest : List Char) : letter ≠ '-' → (∀ key : Key, letter ∉ key.letters) →
      (∀ switch : Switch, letter ≠ switch.letter) →
      IsUnknown (String.ofList ('-' :: letter :: rest))

private theorem Progress.meet_unknown {progress : Progress} {word : String}
    (unknown : IsUnknown word)
    (more : progress.onlyPositional = false) : progress.meet word = .error .unknownWord := by
  cases unknown with
  | @name name attached unknown filled =>
    have noKey : Key.ofLong? name = none := Option.eq_none_iff_forall_ne_some.mpr
      fun key known => unknown.noKey key (Key.ofLong?_eq_some_iff.mp known)
    have noSwitch : Switch.ofLong? name = none := Option.eq_none_iff_forall_ne_some.mpr
      fun switch known => unknown.noSwitch switch (Switch.ofLong?_eq_some_iff.mp known)
    rw [meet_long more unknown.plain filled, noKey, noSwitch]
  | @letter letter rest single keyless switchless =>
    have noKey : Key.ofLetter? letter = none := Option.eq_none_iff_forall_ne_some.mpr
      fun key known => keyless key (Key.ofLetter?_eq_some_iff.mp known)
    have noSwitch : Switch.ofLetter? letter = none := Option.eq_none_iff_forall_ne_some.mpr
      fun switch known => switchless switch (Switch.ofLetter?_eq_some_iff.mp known)
    rw [meet_dash more single]
    simp only [meetLetters, noKey, noSwitch]

/-- A word put in where a value is awaited takes its place, and the value is one too many. -/
private theorem Progress.StandsBefore.foldlM_positional {progress : Progress} {word : String}
    {back : List String} (stands : progress.StandsBefore back) (positional : IsPositional word) :
    (word :: back).foldlM meet progress = .error .unknownWord := by
  obtain ⟨more, awaits⟩ := stands
  rw [List.foldlM_cons, meet_positional more positional, meetPlain]
  cases waits : progress.waiting with
  | nothing => rfl
  | settling key text => rfl
  | value key =>
    obtain ⟨text, rest, rfl, plainText⟩ := awaits key waits
    change (text :: rest).foldlM meet { progress with waiting := .settling key word } = _
    rw [List.foldlM_cons, @meet_positional { progress with waiting := .settling key word } text more
      (.inr plainText)]
    rfl

private theorem isRefused_of_cut {options : List Given} {front back behind : List String}
    (spelled : Spells options (front ++ back))
    (refused : ∀ progress : Progress, progress.StandsBefore back →
      behind.foldlM Progress.meet progress = .error .unknownWord) (envVariable : Option String) :
    IsRefused (front ++ behind) envVariable := by
  rw [IsRefused, parse, List.foldlM_append]
  rcases @Progress.meet_cut {} options front back spelled ⟨rfl, nofun⟩ with
    ⟨error, read, isError⟩ | ⟨after, read, stands⟩
  · rw [read]
    exact ⟨error, rfl, isError⟩
  · rw [read]
    change ∃ error, ((behind.foldlM Progress.meet after >>= fun progress =>
      progress.settle >>= (·.finish envVariable)) = .error error) ∧ error.isAnswer = false
    rw [refused after stands]
    exact ⟨.unknownWord, rfl, rfl⟩

/-- An unknown option is refused wherever it stands, whatever follows it. -/
theorem isRefused_of_unknown {options : List Given} {front back : List String} {word : String}
    (spelled : Spells options (front ++ back)) (unknown : IsUnknown word) (behind : List String)
    (envVariable : Option String) : IsRefused (front ++ word :: behind) envVariable := by
  apply isRefused_of_cut spelled
  intro progress stands
  rw [List.foldlM_cons, Progress.meet_unknown unknown stands.1]
  rfl

/-- A positional argument is refused wherever it stands. -/
theorem isRefused_of_positional {options : List Given} {front back : List String} {word : String}
    (spelled : Spells options (front ++ back)) (positional : IsPositional word)
    (envVariable : Option String) : IsRefused (front ++ word :: back) envVariable :=
  isRefused_of_cut spelled (fun _ stands => stands.foldlM_positional positional) envVariable

end Splice.CommandLine
