import Splice.Proofs.Reference

/-! # Writing references back

`Reference.encode` writes a reference down again. The main statement, `encode_exact`, says that
decoding undoes it for every reference that decoding can give, and that it undoes decoding but for
a hash sign without a key behind it. Decoding does not depend on the order in which the tags are
tried.
-/

namespace Splice

namespace Provider

private theorem classifyIn?_eq_classify? {order : List Provider}
    (complete : ∀ provider, provider ∈ order)
    (inner : String) : classifyIn? order inner = classify? inner := by
  apply Option.ext
  rintro ⟨provider, rest⟩
  rw [classifyIn?_eq_some_iff (complete provider), classify?_eq_some_iff]

end Provider

namespace Reference

/-- Decodes the inner text of a placeholder with the tags tried in some order. -/
def parseIn? (order : List Provider) (inner : String) : Option Reference :=
  (Provider.classifyIn? order inner).map fun
    | (.ssm, rest) => .parameter rest
    | (.secretsManager, rest) => splitField rest.toList

private theorem parseIn?_eq_parse? {order : List Provider} (complete : ∀ provider, provider ∈ order)
    (inner : String) : parseIn? order inner = parse? inner := by
  rw [parseIn?, Provider.classifyIn?_eq_classify? complete]
  rfl

/-- Writes a reference down: the tag of its provider, its path, and its field behind a hash sign. -/
def encode : Reference → String
  | parameter path => "aws:ssm:" ++ path
  | secret path none => "aws:secretsmanager:" ++ path
  | secret path (some field) => "aws:secretsmanager:" ++ path ++ "#" ++ field

/-- A reference that can be told from its text: the path of a secret holds no hash sign, and its
field is not empty. -/
def IsProper : Reference → Prop
  | parameter _ => True
  | secret path field => '#' ∉ path.toList ∧ field ≠ some ""

instance (reference : Reference) : Decidable reference.IsProper :=
  match reference with
  | .parameter _ => inferInstanceAs (Decidable True)
  | .secret path field => inferInstanceAs (Decidable ('#' ∉ path.toList ∧ field ≠ some ""))

/-- The only hash sign of a secret's text is its last character, which is left out of another
text. -/
structure DropsHash (inner kept : String) : Prop where
  ends : inner = kept ++ "#"
  tagged : "aws:secretsmanager:".toList <+: kept.toList
  only : '#' ∉ kept.toList

private theorem IsProper.isWritten {reference : Reference} (proper : reference.IsProper) :
    reference.IsWritten reference.encode := by
  match reference with
  | .parameter path => exact .parameter path
  | .secret path none => exact .secret proper.1
  | .secret path (some field) =>
    have filled : field ≠ "" := fun empty => proper.2 (congrArg some empty)
    have written := IsWritten.field proper.1 filled
    rwa [← String.append_assoc, ← String.append_assoc] at written

private theorem IsWritten.isProper {inner : String} {reference : Reference}
    (written : reference.IsWritten inner) : reference.IsProper := by
  have filled := written.field?_ne
  cases written with
  | parameter => exact trivial
  | secret unmarked => exact ⟨unmarked, filled⟩
  | keyless unmarked => exact ⟨unmarked, filled⟩
  | field unmarked => exact ⟨unmarked, filled⟩

private theorem DropsHash.exists_isWritten {inner kept : String} (drops : DropsHash inner kept) :
    ∃ path, kept = encode (.secret path none) ∧ (secret path none).IsWritten inner ∧
      (secret path none).IsWritten kept := by
  obtain ⟨path, tagged⟩ := drops.tagged
  have same : kept = "aws:secretsmanager:" ++ String.ofList path := by
    rw [← String.toList_inj, ← tagged, String.toList_append]
    exact congrArg ("aws:secretsmanager:".toList ++ ·) String.toList_ofList.symm
  have unmarked : '#' ∉ (String.ofList path).toList := by
    intro member
    apply drops.only
    rw [same, String.toList_append]
    exact List.mem_append_right _ member
  refine ⟨String.ofList path, same, ?_, ?_⟩
  · rw [drops.ends, same, String.append_assoc]
    exact .keyless unmarked
  · rw [same]
    exact .secret unmarked

private theorem IsWritten.eq_encode_or_dropsHash {inner : String} {reference : Reference}
    (written : reference.IsWritten inner) :
    inner = reference.encode ∨ DropsHash inner reference.encode := by
  cases written with
  | parameter path => exact .inl rfl
  | secret unmarked => exact .inl rfl
  | @keyless path unmarked =>
    right
    change DropsHash _ ("aws:secretsmanager:" ++ path)
    refine ⟨(String.append_assoc ..).symm, ?_, ?_⟩
    · rw [String.toList_append]
      exact List.prefix_append ..
    · rw [String.toList_append, List.mem_append, not_or]
      exact ⟨by decide, unmarked⟩
  | @field path key unmarked filled =>
    left
    change _ = "aws:secretsmanager:" ++ path ++ "#" ++ key
    simp only [String.append_assoc]

private theorem IsWritten.encode_of_dropsHash {inner kept : String} {reference : Reference}
    (written : reference.IsWritten inner) (drops : DropsHash inner kept) :
    reference.encode = kept := by
  obtain ⟨path, rfl, otherwise, _⟩ := drops.exists_isWritten
  rw [written.unique otherwise]

private theorem IsWritten.eq_or_dropsHash {inner other : String} {reference : Reference}
    (written : reference.IsWritten inner) (otherwise : reference.IsWritten other) :
    inner = other ∨ DropsHash inner other ∨ DropsHash other inner := by
  rcases written.eq_encode_or_dropsHash with same | drops <;>
    rcases otherwise.eq_encode_or_dropsHash with otherSame | otherDrops
  · exact .inl (same.trans otherSame.symm)
  · exact .inr (.inr (same ▸ otherDrops))
  · exact .inr (.inl (otherSame ▸ drops))
  · exact .inl (drops.ends.trans otherDrops.ends.symm)

/-- Decoding gives back every proper reference that was encoded, and gives no other reference. It
gives one exactly for the texts that start with the tag of a provider. Encoding this reference gives
the text back, except that a text whose only hash sign is its last character loses that sign. So
two texts of one reference are equal or differ by such a sign. The order in which the tags are tried
does not matter. -/
theorem encode_exact :
    (∀ reference : Reference, reference.IsProper → parse? reference.encode = some reference) ∧
    (∀ inner reference, parse? inner = some reference → reference.IsProper) ∧
    (∀ inner, (∃ reference, parse? inner = some reference) ↔
      "aws:ssm:".toList <+: inner.toList ∨ "aws:secretsmanager:".toList <+: inner.toList) ∧
    (∀ inner reference, parse? inner = some reference →
      (∀ kept, DropsHash inner kept → reference.encode = kept) ∧
      ((∀ kept, ¬ DropsHash inner kept) → reference.encode = inner)) ∧
    (∀ inner other reference, parse? inner = some reference →
      (parse? other = some reference ↔
        inner = other ∨ DropsHash inner other ∨ DropsHash other inner)) ∧
    ∀ order : List Provider, order.Perm Provider.all → ∀ inner,
      parseIn? order inner = parse? inner := by
  refine ⟨?_, ?_, ?_, ?_, ?_, ?_⟩
  · intro reference proper
    exact parse?_eq_some_iff.mpr proper.isWritten
  · intro inner reference parsed
    exact (parse?_eq_some_iff.mp parsed).isProper
  · intro inner
    have providers (Holds : Provider → Prop) :
        (∃ provider, Holds provider) ↔ Holds .ssm ∨ Holds .secretsManager :=
      ⟨fun ⟨provider, holds⟩ => by cases provider <;> simp [holds],
        fun holds => holds.elim (⟨_, ·⟩) (⟨_, ·⟩)⟩
    rw [← Option.ne_none_iff_exists', Ne, parse?_eq_none_iff, not_forall_not, providers]
    rfl
  · intro inner reference parsed
    have written := parse?_eq_some_iff.mp parsed
    refine ⟨fun kept => written.encode_of_dropsHash, fun keeps => ?_⟩
    rcases written.eq_encode_or_dropsHash with same | drops
    · exact same.symm
    · exact absurd drops (keeps _)
  · intro inner other reference parsed
    have written := parse?_eq_some_iff.mp parsed
    rw [parse?_eq_some_iff]
    refine ⟨written.eq_or_dropsHash, ?_⟩
    rintro (rfl | drops | drops)
    · exact written
    · obtain ⟨_, _, whole, kept⟩ := drops.exists_isWritten
      exact written.unique whole ▸ kept
    · obtain ⟨_, _, whole, kept⟩ := drops.exists_isWritten
      exact written.unique kept ▸ whole
  · intro order reordered
    apply parseIn?_eq_parse?
    intro provider
    rw [reordered.mem_iff]
    cases provider <;> decide

/-- A field may hold hash signs of its own, and a sign without a key is lost. -/
theorem encode_exact_hashes :
    let keyed : Reference := .secret "/db" (some "user#name#")
    keyed.IsProper ∧ parse? "aws:secretsmanager:/db#user#name#" = some keyed ∧
      DropsHash "aws:secretsmanager:/db#" "aws:secretsmanager:/db" ∧
      parse? "aws:secretsmanager:/db#" = some (.secret "/db" none) ∧
      parse? "aws:secretsmanager:/db" = some (.secret "/db" none) ∧
      parseIn? [.secretsManager, .ssm] "aws:ssm:/a#" = some (.parameter "/a#") := by
  intro keyed
  obtain ⟨decodes, _, _, _, collides, reordered⟩ := encode_exact
  have proper : keyed.IsProper := by decide
  have drops : DropsHash "aws:secretsmanager:/db#" "aws:secretsmanager:/db" :=
    ⟨by decide, by decide, by decide⟩
  have whole : parse? "aws:secretsmanager:/db" = some (.secret "/db" none) :=
    decodes (.secret "/db" none) (by decide)
  refine ⟨proper, decodes keyed proper, drops, ?_, whole, ?_⟩
  · exact (collides _ _ _ whole).mpr (.inr (.inr drops))
  · rw [reordered _ (List.Perm.swap ..)]
    exact decodes (.parameter "/a#") trivial

end Reference

end Splice
