import Splice.ResolveError
import Splice.Secret.Reader

/-! # Choosing the value of a secret

A secret carries a text or only binary data. A reference asks for the whole text or for one field
of it. Of several members with the same key the last one counts.
-/

namespace Splice.Secret

/-- The value of the last member with a key. -/
def lookup? (members : List Member) (key : String) : Option String :=
  (members.reverse.find? (·.key == key)).map Member.value

/-- The value that a reference asks for: the payload itself, or a field of it. -/
def select (id : String) (payload : Option String) (field : Option String) :
    Except ResolveError String :=
  match payload, field with
  | none, _ => .error (.noStringValue id)
  | some text, none => .ok text
  | some text, some key =>
    match readFlatObject text.toList with
    | .error fault => .error (.invalidJson id (fault.report text.toList))
    | .ok members =>
      match lookup? members key with
      | some value => .ok value
      | none => .error (.keyNotFound key id)

/-- Why a secret gives no value: it carries no text, or a field was asked for that cannot be read
from the text or is not in it. -/
theorem error_of_select {id : String} {payload field : Option String} {error : ResolveError}
    (refused : select id payload field = .error error) :
    payload = none ∧ error = .noStringValue id ∨
      ∃ text key, payload = some text ∧ field = some key ∧
        ((∃ reason, error = .invalidJson id reason) ∨ error = .keyNotFound key id) := by
  unfold select at refused
  split at refused
  · cases refused
    exact .inl ⟨rfl, rfl⟩
  · contradiction
  · next text key =>
    refine .inr ⟨text, key, rfl, rfl, ?_⟩
    split at refused
    · cases refused
      exact .inl ⟨_, rfl⟩
    · split at refused <;> cases refused
      exact .inr rfl

end Splice.Secret
