import Splice.Proofs.PathTemplate.Grammar

/-! # Path expressions without actions

A path expression that opens no action stands for itself, in every context.
-/

namespace Splice.PathTemplate

/-- The template of a text that opens no action. -/
def ofLiteral (source : String) : PathTemplate :=
  if source = "" then ⟨[]⟩ else ⟨[.text source]⟩

private theorem parse_of_literal {source : String} (literal : ¬ ['{', '{'] <:+: source.toList) :
    parse source = .ok (ofLiteral source) := by
  rw [parse_eq_ok_iff, ofLiteral]
  split
  · next empty =>
    subst empty
    exact ⟨⟨by simp, by simp⟩, [], .nil, rfl⟩
  · next filled =>
    refine ⟨⟨?_, by simp⟩, [source.toList], .cons rfl .nil, by simp⟩
    simpa [Segment.IsCanonical] using ⟨filled, literal⟩

private theorem execute_ofLiteral (source : String) (context : Context) :
    (ofLiteral source).execute context = .ok source := by
  unfold ofLiteral
  split
  · next empty =>
    subst empty
    rfl
  · simp [execute, runSegments, Segment.run, bind, Except.bind, pure, Except.pure]

/-- A path expression that opens no action is its own value. -/
theorem evaluate_of_literal {source : String} (literal : ¬ ['{', '{'] <:+: source.toList)
    (context : Context) : evaluate source context = .ok source := by
  rw [evaluate, parse_of_literal literal]
  exact execute_ofLiteral source context

end Splice.PathTemplate
