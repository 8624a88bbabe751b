import Splice.Proofs.Secret.FlatObject
import Splice.Secret

/-! # The value that a reference to a secret asks for

The main statement, `select_exact`, says when a field is found, missing or impossible to look up,
against the grammar of flat objects, and that without a field the payload comes back as it is.
-/

namespace Splice.Secret

/-- The last member with a key has a value. -/
def IsLastValue (members : List Member) (key value : String) : Prop :=
  ∃ before after, members = before ++ ⟨key, value⟩ :: after ∧ ∀ member ∈ after, member.key ≠ key

private theorem lookup?_eq_some_iff {members : List Member} {key value : String} :
    lookup? members key = some value ↔ IsLastValue members key value := by
  simp only [lookup?, Option.map_eq_some_iff, List.find?_eq_some_iff_append, beq_iff_eq,
    Bool.not_eq_true', beq_eq_false_iff_ne]
  constructor
  · rintro ⟨⟨_, _⟩, ⟨rfl, after, before, whole, absent⟩, rfl⟩
    refine ⟨before.reverse, after.reverse, ?_, ?_⟩
    · rw [← List.reverse_reverse members, whole]
      simp
    · exact fun member isAfter => absent member (List.mem_reverse.mp isAfter)
  · rintro ⟨before, after, rfl, absent⟩
    refine ⟨⟨key, value⟩, ⟨rfl, after.reverse, before.reverse, by simp, ?_⟩, rfl⟩
    exact fun member isAfter => absent member (List.mem_reverse.mp isAfter)

private theorem lookup?_eq_none_iff {members : List Member} {key : String} :
    lookup? members key = none ↔ ∀ member ∈ members, member.key ≠ key := by
  simp [lookup?]

/-- The word `null`, among blanks. -/
def IsNull (text : List Char) : Prop :=
  Spaced (· = "null".toList) text

theorem spaced_content_iff {members : List Member} {text : List Char} :
    Spaced (SpellsContent members) text ↔
      Spaced (SpellsObject members) text ∨ members = [] ∧ IsNull text := by
  constructor
  · rintro ⟨front, core, back, blank, spelled, backBlank, whole⟩
    cases spelled with
    | object spelled => exact .inl ⟨front, core, back, blank, spelled, backBlank, whole⟩
    | null => exact .inr ⟨rfl, front, _, back, blank, rfl, backBlank, whole⟩
  · rintro (⟨front, core, back, blank, spelled, backBlank, whole⟩ |
      ⟨rfl, front, _, back, blank, rfl, backBlank, whole⟩)
    · exact ⟨front, core, back, blank, .object spelled, backBlank, whole⟩
    · exact ⟨front, _, back, blank, .null, backBlank, whole⟩

/-! ## Fields -/

variable {id text key : String}

theorem select_field_of_read {members : List Member}
    (read : readFlatObject text.toList = .ok members) :
    select id (some text) (some key) =
      match lookup? members key with
      | some value => .ok value
      | none => .error (.keyNotFound key id) := by
  cases found : lookup? members key <;> simp only [select, read, found]

theorem select_field_of_fault {fault : Fault} (read : readFlatObject text.toList = .error fault) :
    select id (some text) (some key) = .error (.invalidJson id (fault.report text.toList)) := by
  simp only [select, read]

private theorem select_field_eq_ok_iff {value : String} :
    select id (some text) (some key) = .ok value ↔
      ∃ members, Spaced (SpellsObject members) text.toList ∧ IsLastValue members key value := by
  constructor
  · intro selected
    cases read : readFlatObject text.toList with
    | error fault => simp [select_field_of_fault read] at selected
    | ok members =>
      rw [select_field_of_read read] at selected
      split at selected
      · next found =>
        cases selected
        have isLast := lookup?_eq_some_iff.mp found
        rcases spaced_content_iff.mp (readFlatObject_eq_ok_iff.mp read) with spelled | ⟨rfl, _⟩
        · exact ⟨members, spelled, isLast⟩
        · simp [lookup?] at found
      · contradiction
  · rintro ⟨members, spelled, isLast⟩
    have read := readFlatObject_eq_ok_iff.mpr (spaced_content_iff.mpr (.inl spelled))
    simp only [select_field_of_read read, lookup?_eq_some_iff.mpr isLast]

private theorem select_field_eq_keyNotFound_iff :
    select id (some text) (some key) = .error (.keyNotFound key id) ↔
      (∃ members, Spaced (SpellsObject members) text.toList ∧
        ∀ member ∈ members, member.key ≠ key) ∨ IsNull text.toList := by
  have content : (∃ members, Spaced (SpellsContent members) text.toList ∧
      ∀ member ∈ members, member.key ≠ key) ↔
      (∃ members, Spaced (SpellsObject members) text.toList ∧
        ∀ member ∈ members, member.key ≠ key) ∨ IsNull text.toList := by
    simp only [spaced_content_iff, or_and_right, exists_or]
    simp
  rw [← content]
  constructor
  · intro missing
    cases read : readFlatObject text.toList with
    | error fault => simp [select_field_of_fault read] at missing
    | ok members =>
      rw [select_field_of_read read] at missing
      split at missing
      · contradiction
      · next absent =>
        exact ⟨members, readFlatObject_eq_ok_iff.mp read, lookup?_eq_none_iff.mp absent⟩
  · rintro ⟨members, spelled, absent⟩
    simp only [select_field_of_read (readFlatObject_eq_ok_iff.mpr spelled),
      lookup?_eq_none_iff.mpr absent]

private theorem select_field_eq_invalidJson_iff :
    (∃ message, select id (some text) (some key) = .error (.invalidJson id message)) ↔
      ¬ (∃ members, Spaced (SpellsObject members) text.toList) ∧ ¬ IsNull text.toList := by
  have content : (∃ members, readFlatObject text.toList = .ok members) ↔
      (∃ members, Spaced (SpellsObject members) text.toList) ∨ IsNull text.toList := by
    simp [readFlatObject_eq_ok_iff, spaced_content_iff, exists_or]
  rw [← not_or, ← content]
  cases read : readFlatObject text.toList with
  | error fault => simp [select_field_of_fault read]
  | ok members =>
    rw [select_field_of_read read]
    split <;> simp

/-- A field is the value of the last member with its key, in an object whose members are all texts.
It is missing where such an object has no member with its key, and in `null`. Every other payload is
no valid object, among them one with a member of another kind on either side of the field, and one
that goes on behind its end. Without a field the payload comes back as it is. -/
theorem select_exact (id : String) :
    (∀ text key value, select id (some text) (some key) = .ok value ↔
      ∃ members, Spaced (SpellsObject members) text.toList ∧ IsLastValue members key value) ∧
    (∀ text key, select id (some text) (some key) = .error (.keyNotFound key id) ↔
      (∃ members, Spaced (SpellsObject members) text.toList ∧
        ∀ member ∈ members, member.key ≠ key) ∨ IsNull text.toList) ∧
    (∀ text key, (∃ message,
        select id (some text) (some key) = .error (.invalidJson id message)) ↔
      ¬ (∃ members, Spaced (SpellsObject members) text.toList) ∧ ¬ IsNull text.toList) ∧
    (∀ text key, HasOtherMember text.toList → ∃ message,
      select id (some text) (some key) = .error (.invalidJson id message)) ∧
    (∀ members text more key, Spaced (SpellsContent members) text.toList → ¬ Blanks more.toList →
      ∃ message, select id (some (text ++ more)) (some key) = .error (.invalidJson id message)) ∧
    (∀ text, select id (some text) none = .ok text) ∧
    (∀ field, select id none field = .error (.noStringValue id)) := by
  refine ⟨fun _ _ _ => select_field_eq_ok_iff, fun _ _ => select_field_eq_keyNotFound_iff,
    fun _ _ => select_field_eq_invalidJson_iff, ?_, ?_, fun _ => rfl, fun _ => rfl⟩
  · intro text key found
    obtain ⟨fault, read⟩ := found.error
    exact ⟨_, select_field_of_fault read⟩
  · intro members text more key spelled goesOn
    obtain ⟨fault, read⟩ := readFlatObject_append_error spelled goesOn
    rw [← String.toList_append] at read
    exact ⟨_, select_field_of_fault read⟩

theorem select_exact_number :
    HasOtherMember "\x7b\"k\":\"v\",\"n\":1\x7d".toList ∧
    (∃ message, select "s" (some "\x7b\"k\":\"v\",\"n\":1\x7d") (some "k") =
      .error (.invalidJson "s" message)) ∧
    Spaced (SpellsContent []) "null".toList ∧ ¬ Blanks ",".toList ∧
    (∃ message, select "s" (some ("null" ++ ",")) (some "k") =
      .error (.invalidJson "s" message)) := by
  have quoted {value : List Char} (plain : SpellsText value value) :
      SpellsQuoted value ('\"' :: value ++ ['\"']) := ⟨value, plain, rfl⟩
  have field : Member.Spells ⟨"k", "v"⟩ ['\"', 'k', '\"', ':', '\"', 'v', '\"'] := by
    refine ⟨_, [], [], _, quoted ?_, .nil, .nil, quoted ?_, by simp⟩ <;>
      exact spellsText_self (by simp)
  have label : SpellsQuoted ['n'] ['\"', 'n', '\"'] := quoted (spellsText_self (by simp))
  have number (blanks : List Char) (blank : Blanks blanks) : ¬ blanks ++ ['\"'] <+: ['1', '}'] := by
    rintro ⟨after, whole⟩
    cases blanks <;> simp_all [Blanks]
  have other : HasOtherMember "\x7b\"k\":\"v\",\"n\":1\x7d".toList :=
    ⟨[], [⟨"k", "v"⟩], _, ['n'], _, ['1', '}'], .nil,
      .cons ⟨[], _, [], .nil, field, .nil, rfl⟩ .nil, ⟨[], _, [], .nil, label, .nil, rfl⟩,
      number, by simp⟩
  have null : Spaced (SpellsContent []) "null".toList := ⟨[], _, [], .nil, .null, .nil, by simp⟩
  have comma : ¬ Blanks ",".toList := by simp [Blanks]
  exact ⟨other, (select_exact "s").2.2.2.1 _ "k" other, null, comma,
    (select_exact "s").2.2.2.2.1 [] "null" "," "k" null comma⟩

/-- Two spellings of one key, of which the last counts. -/
example : select "s" (some "\x7b\"k\":\"a\",\"\\u006b\":\"b\"\x7d") (some "k") = .ok "b" := by
  decide +kernel

end Splice.Secret
