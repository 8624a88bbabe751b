import Splice.Dispatch
import Splice.Proofs.Call
import Splice.Proofs.Document.Scan
import Splice.Proofs.PathTemplate.Literal
import Splice.Proofs.Reference

/-! # Dispatching the placeholders of a document

The inner text of a placeholder of a document opens no action, so its path is its own value and it
asks for the same call in every context. `dispatch?_of_mem_scan` reduces dispatching a placeholder
of a document to carrying out its call.
-/

namespace Splice

namespace Reference

/-- The path of a reference is part of the inner text that it was decoded from. -/
theorem path_infix_of_parse? {inner : String} {reference : Reference}
    (parsed : parse? inner = some reference) : reference.path.toList <:+: inner.toList := by
  obtain ⟨⟨provider, rest⟩, classified, rfl⟩ := Option.map_eq_some_iff.mp parsed
  obtain ⟨tag, _, untagged⟩ := List.exists_of_findSome?_eq_some classified
  obtain ⟨tail, untagged, same⟩ := Option.map_eq_some_iff.mp untagged
  cases same
  rw [Provider.untag?_eq_some_iff.mp untagged, String.toList_append]
  have suffix : rest.toList <:+ provider.tag.toList ++ rest.toList := List.suffix_append _ _
  cases provider with
  | ssm => exact suffix.isInfix
  | secretsManager =>
    have front : (splitField rest.toList).path.toList <+: rest.toList := by
      rw [splitField, path, String.toList_ofList]
      exact List.takeWhile_prefix _
    exact front.isInfix.trans suffix.isInfix

theorem provider_call (reference : Reference) (target : String) :
    (reference.call target).provider = reference.provider := by
  cases reference <;> rfl

theorem key_call (reference : Reference) (target : String) :
    (reference.call target).key = target := by
  cases reference <;> rfl

end Reference

namespace Document

/-- The call that a placeholder asks for, if it belongs to a provider. Its name is the path of the
placeholder as it is written. -/
def Placeholder.call? (placeholder : Placeholder) : Option Call :=
  (Reference.parse? placeholder.inner).map fun reference => reference.call reference.path

/-- A placeholder belongs to the provider whose tag its inner text starts with. -/
def Placeholder.BelongsTo (placeholder : Placeholder) (provider : Provider) : Prop :=
  provider.tag.toList <+: placeholder.inner.toList

/-- A placeholder is supported if it belongs to some provider. -/
def Placeholder.IsSupported (placeholder : Placeholder) : Prop :=
  ∃ provider ∈ Provider.all, placeholder.BelongsTo provider

instance (placeholder : Placeholder) : Decidable placeholder.IsSupported :=
  inferInstanceAs (Decidable (∃ provider ∈ Provider.all,
    provider.tag.toList <+: placeholder.inner.toList))

theorem Placeholder.not_isSupported_iff {placeholder : Placeholder} :
    ¬ placeholder.IsSupported ↔ ∀ provider : Provider, ¬ placeholder.BelongsTo provider := by
  have listed (provider : Provider) : provider ∈ Provider.all := by cases provider <;> decide
  simp only [IsSupported, not_exists, not_and, listed, forall_const]

/-- The placeholders that ask for a call are the supported ones. -/
theorem Placeholder.call?_eq_none_iff {placeholder : Placeholder} :
    placeholder.call? = none ↔ ¬ placeholder.IsSupported := by
  rw [Placeholder.call?, Option.map_eq_none_iff, Reference.parse?_eq_none_iff, not_isSupported_iff]
  rfl

/-- The call of a placeholder goes to the provider that the placeholder belongs to. -/
theorem Placeholder.belongsTo_of_call? {placeholder : Placeholder} {call : Call}
    (asked : placeholder.call? = some call) : placeholder.BelongsTo call.provider := by
  obtain ⟨reference, parsed, rfl⟩ := Option.map_eq_some_iff.mp asked
  rw [Reference.provider_call]
  exact Reference.tag_prefix_of_parse? parsed

/-- The calls that the placeholders of a document ask for. -/
def calls (document : String) : List Call :=
  (scan document).filterMap Placeholder.call?

/-- No action is opened inside a placeholder of a document. -/
theorem literal_of_mem_scan {document : String} {placeholder : Placeholder}
    (member : placeholder ∈ scan document) : ¬ ['{', '{'] <:+: placeholder.inner.toList := by
  obtain ⟨front, inner, back, isInner, _, rfl⟩ := mem_scan_iff.mp member
  intro opening
  rw [Placeholder.ofInner, String.toList_ofList] at opening
  exact (isInner.2 '{' (opening.subset (by simp))).1 rfl

end Document

/-- A result that is shown as a failure is one. -/
theorem Outcome.eq_error_of_ofResult {result : CallResult} {error : ResolveError}
    (failed : ofResult result = failed error) : result = .error error := by
  cases result with
  | ok value => contradiction
  | error other => rw [Outcome.failed.inj failed]

namespace Circumstances

variable {circumstances : Circumstances} {context : Context} {t : Timeline}

/-- Carries out the call that a placeholder asks for. -/
def carryOut? (circumstances : Circumstances) (t : Timeline) :
    Option Call → Option (Step Outcome)
  | none => some ⟨.unsupported, [], [], t⟩
  | some call =>
    (circumstances.call? call t).map fun step =>
      { value := .ofResult step.value
        calls := step.calls
        events := .dispatching call.provider :: step.events
        after := step.after }

/-- An inner text whose path has a value asks for a call. -/
theorem dispatch?_of_written {inner target : String} {reference : Reference}
    (written : reference.IsWritten inner)
    (evaluated : PathTemplate.evaluate reference.path context = .ok target) :
    circumstances.dispatch? context inner t =
      circumstances.carryOut? t (some (reference.call target)) := by
  simp only [dispatch?, Reference.parse?_eq_some_iff.mpr written, resolve?, evaluated, carryOut?,
    Reference.provider_call]

/-- Dispatching a placeholder of a document carries out the call that it asks for. -/
theorem dispatch?_of_mem_scan {document : String} {placeholder : Document.Placeholder}
    (member : placeholder ∈ Document.scan document) :
    circumstances.dispatch? context placeholder.inner t =
      circumstances.carryOut? t placeholder.call? := by
  unfold Document.Placeholder.call?
  cases parsed : Reference.parse? placeholder.inner with
  | none =>
    rw [dispatch?, parsed]
    rfl
  | some reference =>
    have literal : ¬ ['{', '{'] <:+: reference.path.toList := fun opening =>
      Document.literal_of_mem_scan member
        (opening.trans (Reference.path_infix_of_parse? parsed))
    exact dispatch?_of_written (Reference.parse?_eq_some_iff.mp parsed)
      (PathTemplate.evaluate_of_literal literal context)

/-- A placeholder logs its provider, and behind it what the gateway logs for the call it makes. -/
theorem events_carryOut? {asked : Option Call} {step : Step Outcome}
    (done : circumstances.carryOut? t asked = some step) :
    step.events = (asked.toList.map fun call => .dispatching call.provider) ++
      step.calls.flatMap fun call => (circumstances.gateway call).events := by
  cases asked with
  | none =>
    cases done
    rfl
  | some call =>
    obtain ⟨called, made, rfl⟩ := Option.map_eq_some_iff.mp done
    exact congrArg (.dispatching call.provider :: ·) (events_call? made)

/-- A placeholder is left as it is exactly if it asks for no call. -/
theorem value_carryOut?_eq_unsupported_iff {asked : Option Call} {step : Step Outcome}
    (done : circumstances.carryOut? t asked = some step) :
    step.value = .unsupported ↔ asked = none := by
  cases asked with
  | none =>
    cases done
    exact ⟨fun _ => rfl, fun _ => rfl⟩
  | some call =>
    obtain ⟨called, _, rfl⟩ := Option.map_eq_some_iff.mp done
    cases called.value with
    | ok value => exact ⟨nofun, nofun⟩
    | error error => exact ⟨nofun, nofun⟩

end Circumstances

end Splice
