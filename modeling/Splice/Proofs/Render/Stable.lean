import Splice.Proofs.Render.Opening
import Splice.Session

/-! # Rendering an output again

An output may look like a document: it holds markers and the placeholders that were left as they
are. If nothing else in it opens braces, no placeholder of it belongs to a provider, so that a
second rendering changes nothing and calls nobody. The main statement is `render?_stable`.
-/

namespace Splice

namespace Document

private theorem not_tag_prefix_error (provider : Provider) (rest : List Char) :
    ¬ provider.tag.toList <+: 'E' :: rest := by
  cases provider <;> simp [Provider.tag]

end Document

namespace Filled

/-- A placeholder that stands at the start of a marker, or of a placeholder that was left as it is,
belongs to no provider. The message of a failure may close the marker early. -/
private theorem not_tag_prefix_of_opening {piece : Filled} {inner body rest back : List Char}
    (isInner : Document.IsInner inner) (unbraced : piece.Unbraced)
    (left : ∀ kept, piece = .placeholder kept .unsupported →
      ∀ provider : Provider, ¬ provider.tag.toList <+: kept)
    (starts : piece.text.toList = '{' :: '{' :: body)
    (same : inner ++ '}' :: '}' :: back = body ++ rest) (provider : Provider) :
    ¬ provider.tag.toList <+: inner := by
  have opened : '{' ∈ piece.text.toList := by simp [starts]
  match piece with
  | .literal text =>
    have unopened : '{' ∉ text := unbraced
    rw [Filled.text, String.toList_ofList] at opened
    exact absurd opened unopened
  | .placeholder kept (.resolved value) => exact absurd opened unbraced.2
  | .placeholder kept (.failed error) =>
    rw [toList_text_failed] at starts
    simp only [List.cons.injEq, true_and] at starts
    subst starts
    obtain ⟨c, inner, rfl⟩ := List.exists_cons_of_ne_nil isInner.1
    obtain rfl : c = 'E' := (List.cons.inj same).1
    exact Document.not_tag_prefix_error provider inner
  | .placeholder kept .unsupported =>
    rw [toList_text_unsupported] at starts
    simp only [List.cons.injEq, true_and] at starts
    subst starts
    have whole :
        (Piece.placeholder inner).text ++ back = (Piece.placeholder kept).text ++ rest := by
      simpa [Piece.text] using same
    obtain rfl := isInner.eq_of_append unbraced.1 whole
    exact left inner rfl provider

end Filled

namespace Circumstances

variable {circumstances : Circumstances} {context : Context} {document : String}
  {t after : Timeline} {visits : List Visit}

/-- If neither the literal text of a document nor what its placeholders came to holds an opening
brace, no placeholder of the output is supported. Whoever renders the output again, in whatever
circumstances, gets it back without any call. -/
theorem render?_stable (course : circumstances.Course context t visits after)
    (visited : visits.map Visit.placeholder = Document.scan document)
    (literals : ∀ text, .literal text ∈ Document.pieces document → '{' ∉ text)
    (unbraced : ∀ visit ∈ visits, visit.step.value.Unbraced) :
    ∃ step, circumstances.render? context document t = some step ∧ step.after = after ∧
      (∀ placeholder ∈ Document.scan step.value, ¬ placeholder.IsSupported) ∧
      ∀ (second : Circumstances) (other : Context) (start : Timeline),
        ∃ again, second.render? other step.value start = some again ∧
          again.value = step.value ∧ again.calls = [] ∧ again.after = start := by
  have carriedOut := course.carriedOut (Document.mem_scan_of_visited visited)
  have pieces : ∀ piece ∈ Filled.ofOutcomes (Document.pieces document)
      (visits.map (·.step.value)), piece.Unbraced ∧
        ∀ kept, piece = .placeholder kept .unsupported →
          ∀ provider : Provider, ¬ provider.tag.toList <+: kept := by
    refine Filled.forall_mem_ofOutcomes visited ?_ ?_
    · intro text member
      exact ⟨literals text member, nofun⟩
    · intro inner member visit visiting named
      refine ⟨⟨Document.isInner_of_mem_piecesAfter member, unbraced visit visiting⟩, ?_⟩
      intro kept same provider tagged
      obtain ⟨rfl, left⟩ := Filled.placeholder.inj same
      have unasked := (value_carryOut?_eq_unsupported_iff (carriedOut visit visiting)).mp left
      rw [Document.Placeholder.call?_eq_none_iff,
        Document.Placeholder.not_isSupported_iff] at unasked
      apply unasked provider
      rwa [Document.Placeholder.BelongsTo, named, String.toList_ofList]
  have unsupported : ∀ placeholder ∈ Document.scan (Document.report document visits after).value,
      ¬ placeholder.IsSupported := by
    intro placeholder member
    obtain ⟨front, inner, back, isInner, same, rfl⟩ := Document.mem_scan_iff.mp member
    have occurs : (Filled.output (Filled.ofOutcomes (Document.pieces document)
        (visits.map (·.step.value)))).toList =
          front ++ '{' :: '{' :: (inner ++ '}' :: '}' :: back) := by
      have braces : (Piece.placeholder inner).text ++ back =
          '{' :: '{' :: (inner ++ '}' :: '}' :: back) := by simp [Piece.text]
      rw [← braces, ← List.append_assoc]
      exact same
    obtain ⟨before, piece, rest, body, whole, _, starts, behind⟩ :=
      Filled.exists_opening (fun piece member => (pieces piece member).1) occurs
    obtain ⟨bare, left⟩ := pieces piece (by simp [whole])
    rw [Document.Placeholder.not_isSupported_iff]
    intro provider
    rw [Document.Placeholder.BelongsTo, Document.Placeholder.ofInner, String.toList_ofList]
    exact Filled.not_tag_prefix_of_opening isInner bare left starts behind provider
  refine ⟨_, render?_eq_some_iff.mpr ⟨visits, after, course, visited, rfl⟩, rfl, unsupported, ?_⟩
  intro second other start
  exact render?_of_unsupported second other start unsupported

/-- A message that holds closing braces ends its marker early, and its rest is literal text. -/
theorem render?_stable_closing :
    let world : World :=
      { stores := { parameters := [("p", "v\x7d")] }
        failures := [("q", .transport "a\x7d\x7db"), ("r", .transport "aws:ssm:p\x7d")] }
    let circumstances := world.circumstances none true
    let document := "\x7b\x7baws:ssm:p\x7d\x7d\x7b\x7bx\x7d\x7d" ++
      "\x7b\x7baws:ssm:q\x7d\x7d\x7b\x7baws:ssm:r\x7d\x7d"
    let output := "v\x7d\x7b\x7bx\x7d\x7d" ++
      "\x7b\x7bERROR:a\x7d\x7db\x7d\x7d\x7b\x7bERROR:aws:ssm:p\x7d\x7d\x7d"
    ∃ step again, circumstances.render? {} document {} = some step ∧ step.value = output ∧
      circumstances.render? ⟨"DEV"⟩ output {} = some again ∧ again.value = output ∧
      again.calls = [] := by
  intro world circumstances document output
  let visits : List Visit :=
    [⟨.ofInner 0 "aws:ssm:p".toList, {}, ⟨.resolved "v\x7d", [.parameter "p"],
        [.dispatching .ssm], { started := 1 }⟩⟩,
      ⟨.ofInner 13 "x".toList, { started := 1 }, ⟨.unsupported, [], [], { started := 1 }⟩⟩,
      ⟨.ofInner 18 "aws:ssm:q".toList, { started := 1 }, ⟨.failed (.transport "a\x7d\x7db"),
        [.parameter "q"], [.dispatching .ssm], { started := 2 }⟩⟩,
      ⟨.ofInner 31 "aws:ssm:r".toList, { started := 2 }, ⟨.failed (.transport "aws:ssm:p\x7d"),
        [.parameter "r"], [.dispatching .ssm], { started := 3 }⟩⟩]
  have course : circumstances.Course {} {} visits { started := 3 } :=
    .cons rfl (.cons rfl (.cons rfl (.cons rfl (.nil _))))
  have visited : visits.map Visit.placeholder = Document.scan document := by decide +kernel
  have literals : ∀ text, .literal text ∈ Document.pieces document → '{' ∉ text := by
    have pieces : Document.pieces document =
        [.placeholder "aws:ssm:p".toList, .placeholder "x".toList,
          .placeholder "aws:ssm:q".toList, .placeholder "aws:ssm:r".toList] := by
      decide +kernel
    simp [pieces]
  have unbraced : ∀ visit ∈ visits, visit.step.value.Unbraced := by decide +kernel
  obtain ⟨step, rendered, _, _, stable⟩ := render?_stable course visited literals unbraced
  obtain ⟨again, renderedAgain, same, silent, _⟩ := stable circumstances ⟨"DEV"⟩ {}
  have value : (circumstances.render? {} document {}).map Step.value = some output := by
    decide +kernel
  rw [rendered] at value
  have shown : step.value = output := Option.some.inj value
  rw [shown] at renderedAgain same
  exact ⟨step, again, rendered, shown, renderedAgain, same, silent⟩

end Circumstances

end Splice
