import Splice.Proofs.PathTemplate.Execution
import Splice.Proofs.PathTemplate.Grammar
import Splice.Proofs.Text.LowerCase

/-! # Lowering more than once

An action may lower the environment name as often as it likes. The main statement,
`lowering_repeated`, says that this comes to the same as lowering it once, wherever the action
stands and however it is written.
-/

namespace Splice

/-- The pipeline that lowers what its first command gives a number of times. -/
def Pipeline.lowering (source : Command) (count : Nat) : Pipeline :=
  ⟨source, List.replicate count (.call .toLower)⟩

namespace Pipeline

variable {source : Command} (isSource : source.IsSource) {count : Nat}

include isSource

private theorem isSound_lowering : (lowering source count).IsSound :=
  ⟨isSource, fun _ member => List.eq_of_mem_replicate member⟩

private theorem isCanonical_lowering : (lowering source count).IsCanonical := by
  refine List.forall_mem_cons.mpr ⟨?_, ?_⟩
  · cases isSource with
    | env => exact trivial
    | field =>
      have isName : Text.isIdentifier "Env".toList = true := by decide +kernel
      exact isName
  · intro command member
    obtain rfl := List.eq_of_mem_replicate member
    exact trivial

private theorem value_lowering (positive : 0 < count) (context : Context) :
    (lowering source count).value context = Text.lower context.env := by
  have counted : (lowering source count).commands.count (.call .toLower) = count := by
    rw [commands, lowering, List.count_cons_of_ne isSource.ne_toLower, List.count_replicate_self]
  rw [value, counted, Text.iterate_lower_of_pos positive]

private theorem run_lowering (positive : 0 < count) (context : Context) :
    (lowering source count).run context = .ok (Text.lower context.env) := by
  rw [(isSound_lowering isSource).run_eq, value_lowering isSource positive]

end Pipeline

namespace PathTemplate

private theorem runSegments_congr {context : Context} {segment other : Segment}
    (front back : List Segment)
    (same : segment.run context = other.run context) :
    runSegments context (front ++ segment :: back) =
      runSegments context (front ++ other :: back) := by
  induction front with
  | nil => rw [List.nil_append, List.nil_append, runSegments, runSegments, same]
  | cons head rest ih => rw [List.cons_append, List.cons_append, runSegments, runSegments, ih]

/-- Lowering the environment name again and again gives what lowering it once gives. An action that
does so has this value wherever it stands and in whatever way it is written, next to whatever else
an expression holds. A lowered text, with the two characters of the dotted capital I and the forms
of the sigma, is its own lower-case form. -/
theorem lowering_repeated {source : Command} (isSource : source.IsSource) {count : Nat}
    (positive : 0 < count) (context : Context) :
    (Pipeline.lowering source count).run context = (Pipeline.lowering source 1).run context ∧
    (Pipeline.lowering source 1).run context = .ok (Text.lower context.env) ∧
    (∀ expression : String,
      Spells ⟨[.action (Pipeline.lowering source count)]⟩ expression.toList →
        evaluate expression context = .ok (Text.lower context.env)) ∧
    (∀ front back, ∀ expression other : String,
      parse expression = .ok ⟨front ++ .action (Pipeline.lowering source count) :: back⟩ →
      parse other = .ok ⟨front ++ .action (Pipeline.lowering source 1) :: back⟩ →
        evaluate expression context = evaluate other context) ∧
    ∀ text, Text.lower (Text.lower text) = Text.lower text ∧
      Text.lower^[count] text = Text.lower text := by
  have repeated := Pipeline.run_lowering isSource positive context
  have once := Pipeline.run_lowering isSource Nat.one_pos context
  have same := repeated.trans once.symm
  refine ⟨same, once, ?_, ?_, ?_⟩
  · intro expression spelled
    have canonical : IsCanonical ⟨[.action (Pipeline.lowering source count)]⟩ :=
      ⟨List.forall_mem_singleton.mpr (Pipeline.isCanonical_lowering isSource), .singleton _⟩
    rw [evaluate_of_parse (parse_eq_ok_iff.mpr ⟨canonical, spelled⟩)]
    simp [execute, runSegments, Segment.run, repeated, bind, Except.bind, pure, Except.pure]
  · intro front back expression other parsed otherParsed
    have action : (Segment.action (Pipeline.lowering source count)).run context =
        (Segment.action (Pipeline.lowering source 1)).run context := same
    rw [evaluate_of_parse parsed, evaluate_of_parse otherParsed, execute, execute,
      runSegments_congr front back action]
  · intro text
    exact ⟨Text.lower_lower text, Text.iterate_lower_of_pos positive text⟩

/-- Three times the lower-case form of a name with a dotted capital I and with sigmas at its end. -/
theorem lowering_repeated_sigma :
    Command.IsSource (.field "Env") ∧
    evaluate "\x7b\x7b.Env |toLower | toLower| toLower \x7d\x7d" ⟨"İΣΑΣ"⟩ = .ok "i\u0307σας" := by
  have spelled : Spells ⟨[.action (Pipeline.lowering (.field "Env") 3)]⟩
      "\x7b\x7b.Env |toLower | toLower| toLower \x7d\x7d".toList := by
    have stage (command : Command) (front back : List Char) (frontBlank : ∀ c ∈ front, c = ' ')
        (backBlank : ∀ c ∈ back, c = ' ') : command.Spells (front ++ command.word ++ back) := by
      refine ⟨front, back, rfl, ?_, ?_⟩
      · exact fun c member => frontBlank c member ▸ rfl
      · exact fun c member => backBlank c member ▸ rfl
    have stages : List.Forall₂ Command.Spells (Pipeline.lowering (.field "Env") 3).commands
        [".Env ".toList, "toLower ".toList, " toLower".toList, " toLower ".toList] :=
      .cons (stage _ [] [' '] (by simp) (by simp)) (.cons (stage _ [] [' '] (by simp) (by simp))
        (.cons (stage _ [' '] [] (by simp) (by simp))
          (.cons (stage _ [' '] [' '] (by simp) (by simp)) .nil)))
    exact ⟨[_], .cons ⟨_, ⟨_, stages, rfl⟩, rfl⟩ .nil, by simp⟩
  have lowered : Text.lower "İΣΑΣ" = "i\u0307σας" := by decide +kernel
  refine ⟨.field, ?_⟩
  rw [← lowered]
  exact (lowering_repeated .field (by decide) ⟨"İΣΑΣ"⟩).2.2.1 _ spelled

end PathTemplate

end Splice
