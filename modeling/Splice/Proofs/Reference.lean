import Mathlib.Data.List.Basic
import Mathlib.Data.List.TakeWhile
import Splice.Reference

/-! # How references are written

`Reference.IsWritten` says how a reference stands between the braces of a placeholder. The main
statement, `parse?_eq_some_iff`, says that decoding accepts the inner texts that are written in this
way and nothing else, and gives the reference that was written.
-/

namespace Splice

namespace Provider

theorem untag?_eq_some_iff {provider : Provider} {inner rest : String} :
    provider.untag? inner = some rest ↔ inner = provider.tag ++ rest := by
  simp only [untag?, Option.map_eq_some_iff, List.isPrefixOf?_eq_some_iff_append_eq,
    ← String.toList_inj, String.toList_append]
  constructor
  · rintro ⟨tail, same, rest⟩
    rw [← same, ← rest, String.toList_ofList]
  · intro same
    exact ⟨rest.toList, same.symm, by simp⟩

private theorem tag_append_inj {first second : Provider} {rest otherRest : String}
    (same : first.tag ++ rest = second.tag ++ otherRest) : first = second ∧ rest = otherRest := by
  rw [← String.toList_inj, String.toList_append, String.toList_append] at same
  cases first <;> cases second
  · exact ⟨rfl, String.toList_inj.mp (List.append_cancel_left same)⟩
  · simp [tag] at same
  · simp [tag] at same
  · exact ⟨rfl, String.toList_inj.mp (List.append_cancel_left same)⟩

/-- The first provider of some order whose tag starts the text, and the text after the tag. -/
def classifyIn? (order : List Provider) (inner : String) : Option (Provider × String) :=
  order.findSome? fun provider => (provider.untag? inner).map fun rest => (provider, rest)

/-- Whatever is tried before a provider, no other tag starts the same text. -/
theorem classifyIn?_eq_some_iff {order : List Provider} {inner rest : String} {provider : Provider}
    (tried : provider ∈ order) :
    classifyIn? order inner = some (provider, rest) ↔ inner = provider.tag ++ rest := by
  have sound {found : Provider} {tail : String}
      (classified : classifyIn? order inner = some (found, tail)) : inner = found.tag ++ tail := by
    obtain ⟨_, _, untagged⟩ := List.exists_of_findSome?_eq_some classified
    obtain ⟨_, untagged, same⟩ := Option.map_eq_some_iff.mp untagged
    cases same
    exact untag?_eq_some_iff.mp untagged
  refine ⟨sound, ?_⟩
  intro written
  have untagged := untag?_eq_some_iff.mpr written
  cases classified : classifyIn? order inner with
  | none =>
    have missed := List.findSome?_eq_none_iff.mp classified provider tried
    rw [untagged] at missed
    contradiction
  | some found =>
    obtain ⟨rfl, rfl⟩ := tag_append_inj ((sound classified).symm.trans written)
    rfl

/-- The order in which the tags are tried does not matter. -/
theorem classify?_eq_some_iff {inner rest : String} {provider : Provider} :
    classify? inner = some (provider, rest) ↔ inner = provider.tag ++ rest :=
  (@classifyIn?_eq_some_iff all _ _ _) (by cases provider <;> decide)

end Provider

namespace Reference

/-- A reference is written as the tag of its provider and its path. A hash sign ends the path of a
secret, and the key of a field may follow it. -/
inductive IsWritten : Reference → String → Prop
  | parameter (path : String) : IsWritten (.parameter path) ("aws:ssm:" ++ path)
  | secret {path : String} : '#' ∉ path.toList →
      IsWritten (.secret path none) ("aws:secretsmanager:" ++ path)
  | keyless {path : String} : '#' ∉ path.toList →
      IsWritten (.secret path none) ("aws:secretsmanager:" ++ (path ++ "#"))
  | field {path key : String} : '#' ∉ path.toList → key ≠ "" →
      IsWritten (.secret path (some key)) ("aws:secretsmanager:" ++ (path ++ "#" ++ key))

private theorem all_ne_hash {path : List Char} (unmarked : '#' ∉ path) :
    ∀ c ∈ path, (c != '#') = true := by
  intro c member
  rw [bne_iff_ne]
  rintro rfl
  exact unmarked member

private theorem splitField_of_not_mem {path : List Char} (unmarked : '#' ∉ path) :
    splitField path = .secret (String.ofList path) none := by
  have whole := all_ne_hash unmarked
  have front : path.takeWhile (· != '#') = path := List.takeWhile_eq_self_iff.mpr whole
  have back : path.dropWhile (· != '#') = [] := List.dropWhile_eq_nil_iff.mpr whole
  simp only [splitField, front, back]
  rfl

private theorem splitField_append {path : List Char} (unmarked : '#' ∉ path) (key : List Char) :
    splitField (path ++ '#' :: key) =
      .secret (String.ofList path) (if key.isEmpty then none else some (String.ofList key)) := by
  have whole := all_ne_hash unmarked
  have front : (path ++ '#' :: key).takeWhile (· != '#') = path := by
    simp [List.takeWhile_append_of_pos whole]
  have back : (path ++ '#' :: key).dropWhile (· != '#') = '#' :: key := by
    simp [List.dropWhile_append_of_pos whole]
  simp only [splitField, front, back]
  rfl

private theorem isWritten_splitField (rest : String) :
    (splitField rest.toList).IsWritten ("aws:secretsmanager:" ++ rest) := by
  by_cases marked : '#' ∈ rest.toList
  · obtain ⟨path, key, whole, unmarked⟩ := List.eq_append_cons_of_mem marked
    have written : rest = String.ofList path ++ "#" ++ String.ofList key := by
      rw [← String.toList_inj, whole]
      simp
    have unmarked : '#' ∉ (String.ofList path).toList := by rwa [String.toList_ofList]
    rw [whole, splitField_append (by simpa using unmarked), written]
    cases key with
    | nil =>
      have ends : String.ofList path ++ "#" ++ String.ofList [] = String.ofList path ++ "#" := by
        simp
      rw [ends]
      exact .keyless unmarked
    | cons c key => exact .field unmarked (by simp)
  · rw [splitField_of_not_mem marked, String.ofList_toList]
    exact .secret marked

/-- Decoding accepts exactly the inner texts in which a reference is written. -/
theorem parse?_eq_some_iff {inner : String} {reference : Reference} :
    parse? inner = some reference ↔ reference.IsWritten inner := by
  rw [parse?, Option.map_eq_some_iff]
  constructor
  · rintro ⟨⟨provider, rest⟩, classified, rfl⟩
    obtain rfl := Provider.classify?_eq_some_iff.mp classified
    cases provider with
    | ssm => exact .parameter rest
    | secretsManager => exact isWritten_splitField rest
  · intro written
    cases written with
    | parameter path => exact ⟨(.ssm, path), Provider.classify?_eq_some_iff.mpr rfl, rfl⟩
    | @secret path unmarked =>
      refine ⟨(.secretsManager, path), Provider.classify?_eq_some_iff.mpr rfl, ?_⟩
      simpa using splitField_of_not_mem unmarked
    | @keyless path unmarked =>
      refine ⟨(.secretsManager, path ++ "#"), Provider.classify?_eq_some_iff.mpr rfl, ?_⟩
      simpa using splitField_append unmarked []
    | @field path key unmarked filled =>
      refine ⟨(.secretsManager, path ++ "#" ++ key), Provider.classify?_eq_some_iff.mpr rfl, ?_⟩
      simpa [filled] using splitField_append unmarked key.toList

/-- A text that is decoded starts with the tag of its provider. -/
theorem tag_prefix_of_parse? {inner : String} {reference : Reference}
    (parsed : parse? inner = some reference) :
    reference.provider.tag.toList <+: inner.toList := by
  cases parse?_eq_some_iff.mp parsed <;> rw [String.toList_append] <;> exact List.prefix_append _ _

/-- A text is decoded unless it starts with the tag of no provider. -/
theorem parse?_eq_none_iff {inner : String} :
    parse? inner = none ↔ ∀ provider : Provider, ¬ provider.tag.toList <+: inner.toList := by
  constructor
  · rintro refused provider ⟨rest, tagged⟩
    have written : inner = provider.tag ++ String.ofList rest := by
      rw [← String.toList_inj, String.toList_append, String.toList_ofList, tagged]
    rw [parse?, Provider.classify?_eq_some_iff.mpr written] at refused
    contradiction
  · intro untagged
    cases parsed : parse? inner with
    | none => rfl
    | some reference => exact absurd (tag_prefix_of_parse? parsed) (untagged reference.provider)

/-- An inner text is a way to write one reference at most. -/
theorem IsWritten.unique {inner : String} {reference other : Reference}
    (written : reference.IsWritten inner) (otherWritten : other.IsWritten inner) :
    reference = other := by
  have parsed := parse?_eq_some_iff.mpr written
  rw [parse?_eq_some_iff.mpr otherWritten, Option.some.injEq] at parsed
  exact parsed.symm

/-- A text that starts with the tag of a provider is a way to write some reference. -/
theorem exists_isWritten {inner : String} {provider : Provider}
    (tagged : provider.tag.toList <+: inner.toList) :
    ∃ reference : Reference, reference.IsWritten inner := by
  cases parsed : parse? inner with
  | none => exact absurd tagged (parse?_eq_none_iff.mp parsed provider)
  | some reference => exact ⟨reference, parse?_eq_some_iff.mp parsed⟩

/-- No written reference asks for an empty field. -/
theorem IsWritten.field?_ne {inner : String} {reference : Reference}
    (written : reference.IsWritten inner) : reference.field? ≠ some "" := by
  cases written with
  | parameter path => exact nofun
  | secret unmarked => exact nofun
  | keyless unmarked => exact nofun
  | field unmarked filled =>
    intro empty
    exact filled (Option.some.inj empty)

end Reference

end Splice
