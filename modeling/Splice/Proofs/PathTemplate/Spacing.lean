import Splice.Proofs.PathTemplate.Grammar

/-! # Blanks in path expressions

`tighten` takes the blanks out of the actions of a path expression and leaves everything else as it
is. The main statement says what parsing accepts, and that two path expressions stand for the same
template exactly when they are the same once their actions are tightened.
-/

namespace Splice

/-- A path expression without the blanks inside its actions, from a place inside or outside an
action on. -/
def PathTemplate.tighten : (inside : Bool) → List Char → List Char
  | false, '{' :: '{' :: rest => '{' :: '{' :: tighten true rest
  | false, c :: rest => c :: tighten false rest
  | true, '}' :: '}' :: rest => '}' :: '}' :: tighten false rest
  | true, c :: rest => if Text.isBlank c then tighten true rest else c :: tighten true rest
  | _, [] => []

/-- The spelling of a segment without blanks in its action. -/
def Segment.print : Segment → List Char
  | .text literal => literal.toList
  | .action pipeline =>
    ['{', '{'] ++ ['|'].intercalate (pipeline.commands.map Command.word) ++ ['}', '}']

/-- The spelling of a template without blanks in its actions. -/
def PathTemplate.print (template : PathTemplate) : List Char :=
  template.segments.flatMap Segment.print

namespace Chunk

/-- A stretch as it stands in the path expression, without the blanks in its action. -/
def tight : Chunk → List Char
  | .text literal => literal
  | .action body => ['{', '{'] ++ body.filter (fun c => !Text.isBlank c) ++ ['}', '}']
  | .unclosed => ['{', '{']

private theorem tighten_text_append {literal rest : List Char} (whole : ¬ ['{', '{'] <:+: literal)
    (seam : literal.getLast? = some '{' → ¬ ['{'] <+: rest) :
    PathTemplate.tighten false (literal ++ rest) = literal ++ PathTemplate.tighten false rest := by
  induction literal with
  | nil => rfl
  | cons c literal ih =>
    rw [List.infix_cons_iff, not_or] at whole
    have notOpening := not_opening whole.1 seam
    rw [List.cons_append, PathTemplate.tighten, ih whole.2, List.cons_append]
    · intro last
      cases literal with
      | nil => simp at last
      | cons d literal => exact seam (by simpa using last)
    · rintro after rfl same
      apply notOpening
      rw [same]
      exact List.prefix_append ['{', '{'] after

private theorem tighten_body_append {body : List Char} (whole : ¬ ['}', '}'] <:+: body ++ ['}'])
    (rest : List Char) :
    PathTemplate.tighten true (body ++ ['}', '}'] ++ rest) =
      body.filter (fun c => !Text.isBlank c) ++ ['}', '}'] ++ PathTemplate.tighten false rest := by
  induction body with
  | nil => simp [PathTemplate.tighten]
  | cons c body ih =>
    rw [List.cons_append, List.infix_cons_iff, not_or] at whole
    have inside := mt (closing_prefix_iff c body rest).mp whole.1
    rw [List.cons_append, List.cons_append, PathTemplate.tighten, ih whole.2]
    · cases blank : Text.isBlank c <;> simp [blank]
    · rintro after rfl same
      apply inside
      rw [same]
      exact List.prefix_append ['}', '}'] after

private theorem tighten_flatMap_written {chunks : List Chunk}
    (whole : ∀ chunk ∈ chunks, chunk.IsWhole)
    (chain : chunks.IsChain MayPrecede) :
    PathTemplate.tighten false (chunks.flatMap written) = chunks.flatMap tight := by
  induction chunks with
  | nil => rfl
  | cons chunk chunks ih =>
    obtain ⟨headWhole, tailWhole⟩ := List.forall_mem_cons.mp whole
    have tail := ih tailWhole (List.isChain_cons.mp chain).2
    cases chunk with
    | text literal =>
      have cut := tighten_text_append headWhole.2 (not_opening_of_chain tailWhole chain)
      rwa [tail] at cut
    | action body =>
      have cut := tighten_body_append headWhole (chunks.flatMap written)
      rw [tail] at cut
      simpa [written, tight, PathTemplate.tighten] using cut
    | unclosed => exact headWhole.elim

end Chunk

/-! ## The spelling without blanks -/

private theorem Command.spells_word (command : Command) : command.Spells command.word :=
  ⟨[], [], by simp, by simp, by simp⟩

private theorem Pipeline.spells_words (pipeline : Pipeline) :
    pipeline.Spells (['|'].intercalate (pipeline.commands.map Command.word)) := by
  refine ⟨pipeline.commands.map Command.word, ?_, rfl⟩
  rw [List.forall₂_map_right_iff, List.forall₂_same]
  intro command _
  exact command.spells_word

private theorem Segment.spells_print (segment : Segment) : segment.Spells segment.print := by
  cases segment with
  | text literal => rfl
  | action pipeline => exact ⟨_, pipeline.spells_words, rfl⟩

private theorem PathTemplate.spells_print (template : PathTemplate) :
    template.Spells template.print := by
  refine ⟨template.segments.map Segment.print, ?_, List.flatMap_def⟩
  rw [List.forall₂_map_right_iff, List.forall₂_same]
  intro segment _
  exact segment.spells_print

private theorem Command.Spells.filter_eq {command : Command} {stage : List Char}
    (spelled : command.Spells stage) (canonical : command.IsCanonical) :
    stage.filter (fun c => !Text.isBlank c) = command.word := by
  obtain ⟨front, back, rfl, frontBlank, backBlank⟩ := spelled
  have noFront : front.filter (fun c => !Text.isBlank c) = [] := by
    apply List.filter_eq_nil_iff.mpr
    intro c member
    simp [frontBlank c member]
  have noBack : back.filter (fun c => !Text.isBlank c) = [] := by
    apply List.filter_eq_nil_iff.mpr
    intro c member
    simp [backBlank c member]
  have wholeWord : command.word.filter (fun c => !Text.isBlank c) = command.word := by
    apply List.filter_eq_self.mpr
    intro c member
    simp [word_not_blank canonical c member]
  rw [List.filter_append, List.filter_append, noFront, noBack, wholeWord]
  simp

private theorem filter_intercalate (stages : List (List Char)) :
    (['|'].intercalate stages).filter (fun c => !Text.isBlank c) =
      ['|'].intercalate (stages.map (List.filter fun c => !Text.isBlank c)) := by
  have bar : ['|'].filter (fun c => !Text.isBlank c) = ['|'] := by decide
  induction stages with
  | nil => rfl
  | cons stage stages ih =>
    cases stages with
    | nil => simp
    | cons next stages =>
      rw [List.intercalate_cons_cons, List.filter_append, List.filter_append, ih, bar]
      simp only [List.map_cons, List.intercalate_cons_cons]

private theorem Pipeline.Spells.filter_eq {pipeline : Pipeline} {body : List Char}
    (spelled : pipeline.Spells body) (canonical : pipeline.IsCanonical) :
    body.filter (fun c => !Text.isBlank c) =
      ['|'].intercalate (pipeline.commands.map Command.word) := by
  obtain ⟨stages, stagesSpelled, rfl⟩ := spelled
  rw [filter_intercalate]
  congr 1
  unfold IsCanonical at canonical
  generalize pipeline.commands = commands at canonical stagesSpelled
  induction stagesSpelled with
  | nil => rfl
  | cons head _ ih =>
    obtain ⟨headCanonical, tailCanonical⟩ := List.forall_mem_cons.mp canonical
    rw [List.map_cons, List.map_cons, head.filter_eq headCanonical, ih tailCanonical]

private theorem Segment.tight_of_ofChunk {chunk : Chunk} {segment : Segment}
    (parsed : ofChunk chunk = .ok segment) : chunk.tight = segment.print := by
  cases segment with
  | text literal =>
    obtain rfl := ofChunk_eq_text_iff.mp parsed
    rfl
  | action pipeline =>
    obtain ⟨body, found, rfl⟩ := ofChunk_eq_action_iff.mp parsed
    obtain ⟨canonical, spelled⟩ := Pipeline.ofBody_eq_ok_iff.mp found
    rw [Chunk.tight, spelled.filter_eq canonical, print]

private theorem Segment.flatMap_tight {chunks : List Chunk} {segments : List Segment}
    (parsed : List.Forall₂ (fun chunk segment => ofChunk chunk = .ok segment) chunks segments) :
    chunks.flatMap Chunk.tight = segments.flatMap print := by
  induction parsed with
  | nil => rfl
  | cons head _ ih => rw [List.flatMap_cons, List.flatMap_cons, tight_of_ofChunk head, ih]

namespace PathTemplate

private theorem tighten_of_parseText {source : List Char} {template : PathTemplate}
    (parsed : parseText source = .ok template) : tighten false source = template.print := by
  have chunks := parseText_eq_ok_iff_forall₂.mp parsed
  obtain ⟨whole, chain, nothingLost⟩ :=
    Chunk.split_eq_iff.mp ⟨rfl, Segment.unclosed_not_mem chunks⟩
  calc
    tighten false source = tighten false ((Chunk.split none source).flatMap Chunk.written) := by
      rw [nothingLost]
    _ = (Chunk.split none source).flatMap Chunk.tight :=
      Chunk.tighten_flatMap_written whole chain
    _ = template.print := Segment.flatMap_tight chunks

private theorem eq_of_print_eq {first second : PathTemplate} (isFirst : first.IsCanonical)
    (isSecond : second.IsCanonical) (same : first.print = second.print) : first = second := by
  have parsed := parseText_eq_ok_iff.mpr ⟨isFirst, first.spells_print⟩
  rw [same, parseText_eq_ok_iff.mpr ⟨isSecond, second.spells_print⟩] at parsed
  exact (Except.ok.inj parsed).symm

private theorem parse_eq_ok_or_error (source : String) :
    (∃ template, parse source = .ok template) ∨
      ∃ message, parse source = .error (.parse message) := by
  unfold parse
  split
  · exact .inl ⟨_, rfl⟩
  · exact .inr ⟨_, rfl⟩

/-- Parsing accepts exactly the spellings of canonical templates and gives the template back. Every
other path expression is rejected as malformed, and two that are accepted stand for the same
template exactly when they differ only in the blanks inside their actions. -/
theorem parse_exact :
    (∀ (source : String) (template : PathTemplate),
      parse source = .ok template ↔ template.IsCanonical ∧ template.Spells source.toList) ∧
    (∀ source : String,
      (∀ template : PathTemplate, template.IsCanonical → ¬ template.Spells source.toList) →
        ∃ message, parse source = .error (.parse message)) ∧
    (∀ (first second : String) (firstTemplate secondTemplate : PathTemplate),
      parse first = .ok firstTemplate → parse second = .ok secondTemplate →
        (firstTemplate = secondTemplate ↔
          tighten false first.toList = tighten false second.toList)) := by
  refine ⟨fun source template => parse_eq_ok_iff, ?_, ?_⟩
  · intro source unspelled
    rcases parse_eq_ok_or_error source with ⟨template, parsed⟩ | rejected
    · obtain ⟨canonical, spelled⟩ := parse_eq_ok_iff.mp parsed
      exact (unspelled template canonical spelled).elim
    · exact rejected
  · intro first second firstTemplate secondTemplate firstParsed secondParsed
    have isFirst := parse_eq_ok_iff.mp firstParsed
    have isSecond := parse_eq_ok_iff.mp secondParsed
    rw [tighten_of_parseText (parseText_eq_ok_iff.mpr isFirst),
      tighten_of_parseText (parseText_eq_ok_iff.mpr isSecond)]
    constructor
    · rintro rfl
      rfl
    · exact eq_of_print_eq isFirst.1 isSecond.1

end PathTemplate

end Splice
