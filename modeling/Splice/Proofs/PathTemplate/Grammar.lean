import Mathlib.Data.List.Forall2
import Splice.Proofs.PathTemplate.Chunk
import Splice.Proofs.Text.Words

/-! # The grammar of path expressions

`PathTemplate.Spells` says how a template can be written down, with any blanks around the words of
its actions, and `PathTemplate.IsCanonical` which templates can be told apart from their spellings.
The main statement, `parse_eq_ok_iff`, says that parsing accepts the spellings of canonical
templates and nothing else, and gives the template that was spelled.
-/

namespace Splice

/-! ## Commands -/

/-- The word of a command: the name of a function, or a period and the name of a field. -/
def Command.word : Command → List Char
  | .call function => function.name.toList
  | .field name => '.' :: name.toList

/-- A command that a word can stand for. -/
def Command.IsCanonical : Command → Prop
  | .call _ => True
  | .field name => Text.isIdentifier name.toList = true

/-- A stage of an action spells a command by its word, with any blanks around it. -/
def Command.Spells (command : Command) (stage : List Char) : Prop :=
  ∃ front back, stage = front ++ command.word ++ back ∧
    (∀ c ∈ front, Text.isBlank c = true) ∧ ∀ c ∈ back, Text.isBlank c = true

namespace Command

private theorem isIdentifier_name (function : Function) :
    Text.isIdentifier function.name.toList = true := by
  cases function <;> decide +kernel

private theorem named?_name (function : Function) :
    Function.named? function.name = some function := by
  cases function <;> rfl

private theorem ofWord_eq_ok_iff {word : List Char} {command : Command} :
    ofWord word = .ok command ↔ command.IsCanonical ∧ word = command.word := by
  constructor
  · intro parsed
    unfold ofWord at parsed
    split at parsed
    · next name =>
      split at parsed
      · next isName =>
        cases parsed
        exact ⟨by rwa [IsCanonical, String.toList_ofList], by simp [Command.word]⟩
      · contradiction
    · split at parsed
      · split at parsed
        · next function named =>
          cases parsed
          have same := List.find?_some named
          rw [decide_eq_true_eq] at same
          exact ⟨trivial, by rw [Command.word, same, String.toList_ofList]⟩
        · contradiction
      · contradiction
  · rintro ⟨canonical, rfl⟩
    cases command with
    | call function =>
      have isName := isIdentifier_name function
      have notPeriod : ∀ name, function.name.toList ≠ '.' :: name := by
        cases function <;> simp [Function.name]
      unfold ofWord
      split
      · next name same => exact absurd same (notPeriod name)
      · simp only [Command.word, isName, if_true, String.ofList_toList, named?_name]
    | field name =>
      have isName : Text.isIdentifier name.toList = true := canonical
      simp [ofWord, Command.word, isName]

/-- The word of a command is not empty and holds no character with a meaning in actions. -/
theorem word_solid {command : Command} (canonical : command.IsCanonical) :
    command.word ≠ [] ∧ ∀ c ∈ command.word, Text.inRanges Text.separatorRanges c = false := by
  cases command with
  | call function => exact Text.not_separator_of_isIdentifier (isIdentifier_name function)
  | field name =>
    refine ⟨by simp [word], List.forall_mem_cons.mpr ⟨by decide, ?_⟩⟩
    exact (Text.not_separator_of_isIdentifier canonical).2

theorem word_not_blank {command : Command} (canonical : command.IsCanonical) :
    ∀ c ∈ command.word, Text.isBlank c = false := by
  intro c member
  apply Text.isBlank_eq_false_of_not_separator
  exact (word_solid canonical).2 c member

private theorem ofStage_eq_ok_iff {stage : List Char} {command : Command} :
    ofStage stage = .ok command ↔ command.IsCanonical ∧ command.Spells stage := by
  constructor
  · intro parsed
    unfold ofStage at parsed
    split at parsed
    · contradiction
    · next word single =>
      obtain ⟨canonical, rfl⟩ := ofWord_eq_ok_iff.mp parsed
      exact ⟨canonical, (Text.words_eq_singleton_iff.mp single).2.2⟩
    · contradiction
  · rintro ⟨canonical, spelled⟩
    have single : Text.words stage = [command.word] :=
      Text.words_eq_singleton_iff.mpr
        ⟨(word_solid canonical).1, word_not_blank canonical, spelled⟩
    rw [ofStage, single]
    exact ofWord_eq_ok_iff.mpr ⟨canonical, rfl⟩

private theorem Spells.not_mem {command : Command} {stage : List Char}
    (spelled : command.Spells stage)
    (canonical : command.IsCanonical) {c : Char} (separator : c ∈ ['{', '|', '}']) : c ∉ stage := by
  obtain ⟨front, back, rfl, frontBlank, backBlank⟩ := spelled
  have marks : ∀ c ∈ ['{', '|', '}'],
      Text.isBlank c = false ∧ Text.inRanges Text.separatorRanges c = true := by
    intro c separator
    simp only [List.mem_cons, List.not_mem_nil, or_false] at separator
    rcases separator with rfl | rfl | rfl <;> decide
  obtain ⟨notBlank, isSeparator⟩ := marks c separator
  intro member
  rcases List.mem_append.mp member with member | member
  · rcases List.mem_append.mp member with member | member
    · simp [frontBlank c member] at notBlank
    · simp [(word_solid canonical).2 c member] at isSeparator
  · simp [backBlank c member] at notBlank

end Command

theorem mapM_eq_ok_iff {ε α β : Type} {f : α → Except ε β} {xs : List α} {ys : List β} :
    xs.mapM f = .ok ys ↔ List.Forall₂ (fun x y => f x = .ok y) xs ys := by
  induction xs generalizing ys with
  | nil => simp [pure, Except.pure, eq_comm]
  | cons x xs ih =>
    rw [List.mapM_cons, List.forall₂_cons_left_iff]
    constructor
    · intro mapped
      cases head : f x with
      | error fault =>
        rw [head] at mapped
        contradiction
      | ok y =>
        cases tail : xs.mapM f with
        | error fault =>
          rw [head, tail] at mapped
          contradiction
        | ok rest =>
          rw [head, tail] at mapped
          cases mapped
          exact ⟨y, rest, rfl, ih.mp tail, rfl⟩
    · rintro ⟨y, rest, head, tail, rfl⟩
      rw [head, ih.mpr tail]
      rfl

/-! ## Pipelines -/

/-- A pipeline that an action can stand for. -/
def Pipeline.IsCanonical (pipeline : Pipeline) : Prop :=
  ∀ command ∈ pipeline.commands, command.IsCanonical

/-- The body of an action spells a pipeline by its commands, with bars between them. -/
def Pipeline.Spells (pipeline : Pipeline) (body : List Char) : Prop :=
  ∃ stages, List.Forall₂ Command.Spells pipeline.commands stages ∧ body = ['|'].intercalate stages

namespace Pipeline

private theorem mem_intercalate {c : Char} {stages : List (List Char)}
    (member : c ∈ ['|'].intercalate stages) : c = '|' ∨ ∃ stage ∈ stages, c ∈ stage := by
  induction stages with
  | nil => simp at member
  | cons stage stages ih =>
    cases stages with
    | nil => exact .inr ⟨stage, by simp, by simpa using member⟩
    | cons next stages =>
      rw [List.intercalate_cons_cons, List.append_assoc, List.mem_append, List.mem_append] at member
      rcases member with here | bar | later
      · exact .inr ⟨stage, by simp, here⟩
      · exact .inl (by simpa using bar)
      · rcases ih later with bar | ⟨other, isStage, inside⟩
        · exact .inl bar
        · exact .inr ⟨other, List.mem_cons_of_mem _ isStage, inside⟩

private theorem not_mem_stages {commands : List Command} {stages : List (List Char)}
    (spelled : List.Forall₂ Command.Spells commands stages)
    (canonical : ∀ command ∈ commands, command.IsCanonical) {c : Char}
    (separator : c ∈ ['{', '|', '}']) : ∀ stage ∈ stages, c ∉ stage := by
  induction spelled with
  | nil => simp
  | cons head _ ih =>
    obtain ⟨headCanonical, tailCanonical⟩ := List.forall_mem_cons.mp canonical
    exact List.forall_mem_cons.mpr ⟨head.not_mem headCanonical separator, ih tailCanonical⟩

private theorem Spells.not_mem {pipeline : Pipeline} {body : List Char}
    (spelled : pipeline.Spells body)
    (canonical : pipeline.IsCanonical) : '}' ∉ body := by
  obtain ⟨stages, stagesSpelled, rfl⟩ := spelled
  intro member
  rcases mem_intercalate member with bar | ⟨stage, isStage, inside⟩
  · contradiction
  · exact not_mem_stages stagesSpelled canonical (by simp) stage isStage inside

/-- The check for an empty action only chooses between faults. -/
private theorem ofBody_eq_ok_iff_mapM {body : List Char} {pipeline : Pipeline} :
    ofBody body = .ok pipeline ↔
      (body.splitOn '|').mapM Command.ofStage = .ok pipeline.commands := by
  unfold ofBody
  split
  · next blank =>
    have noBar : '|' ∉ body := by
      intro member
      have isBlank := List.all_eq_true.mp blank '|' member
      revert isBlank
      decide
    have empty : Command.ofStage body = .error .emptyStage := by
      rw [Command.ofStage, Text.words_eq_nil_iff.mpr (List.all_eq_true.mp blank)]
    simp [List.splitOn_eq_singleton noBar, empty, bind, Except.bind]
  · split
    · next none => simp at none
    · next stage stages same =>
      rw [same, List.mapM_cons]
      cases head : Command.ofStage stage with
      | error fault => simp [bind, Except.bind]
      | ok first =>
        cases tail : stages.mapM Command.ofStage with
        | error fault => simp [bind, Except.bind]
        | ok rest =>
          simp only [bind, Except.bind, pure, Except.pure, commands, Except.ok.injEq]
          cases pipeline
          simp

private theorem forall₂_ofStage_iff {stages : List (List Char)} {commands : List Command} :
    List.Forall₂ (fun stage command => Command.ofStage stage = .ok command) stages commands ↔
      (∀ command ∈ commands, command.IsCanonical) ∧
        List.Forall₂ Command.Spells commands stages := by
  induction stages generalizing commands with
  | nil =>
    simp only [List.forall₂_nil_left_iff, List.forall₂_nil_right_iff]
    constructor
    · rintro rfl
      simp
    · exact And.right
  | cons stage stages ih =>
    cases commands with
    | nil => simp
    | cons command commands =>
      rw [List.forall₂_cons, List.forall₂_cons, List.forall_mem_cons, ih,
        Command.ofStage_eq_ok_iff]
      tauto

theorem ofBody_eq_ok_iff {body : List Char} {pipeline : Pipeline} :
    ofBody body = .ok pipeline ↔ pipeline.IsCanonical ∧ pipeline.Spells body := by
  rw [ofBody_eq_ok_iff_mapM, mapM_eq_ok_iff, forall₂_ofStage_iff]
  constructor
  · rintro ⟨canonical, spelled⟩
    exact ⟨canonical, _, spelled, (List.intercalate_splitOn '|').symm⟩
  · rintro ⟨canonical, stages, spelled, rfl⟩
    have filled : stages ≠ [] := by
      rintro rfl
      cases spelled
    rw [List.splitOn_intercalate '|' (not_mem_stages spelled canonical (by simp)) filled]
    exact ⟨canonical, spelled⟩

end Pipeline

/-! ## Templates -/

namespace Segment

/-- A segment that a stretch of a path expression can stand for. -/
def IsCanonical : Segment → Prop
  | .text literal => literal ≠ "" ∧ ¬ ['{', '{'] <:+: literal.toList
  | .action pipeline => pipeline.IsCanonical

/-- Whether a segment can stand before another one. Two texts would be read as one, and a brace
before an action would be read as part of it. -/
def MayPrecede : Segment → Segment → Prop
  | .text _, .text _ => False
  | .text literal, .action _ => literal.toList.getLast? ≠ some '{'
  | .action _, _ => True

/-- A stretch spells a text by itself, and an action by a body of its pipeline between braces. -/
def Spells : Segment → List Char → Prop
  | .text literal, stretch => stretch = literal.toList
  | .action pipeline, stretch =>
    ∃ body, pipeline.Spells body ∧ stretch = ['{', '{'] ++ body ++ ['}', '}']

theorem ofChunk_eq_text_iff {chunk : Chunk} {literal : String} :
    ofChunk chunk = .ok (.text literal) ↔ chunk = .text literal.toList := by
  constructor
  · intro parsed
    match chunk, parsed with
    | .text other, parsed =>
      cases parsed
      rw [String.toList_ofList]
    | .action body, parsed =>
      cases found : Pipeline.ofBody body <;>
        simp [ofChunk, found, bind, Except.bind, pure, Except.pure] at parsed
  · rintro rfl
    rw [ofChunk, String.ofList_toList]

theorem ofChunk_eq_action_iff {chunk : Chunk} {pipeline : Pipeline} :
    ofChunk chunk = .ok (.action pipeline) ↔
      ∃ body, Pipeline.ofBody body = .ok pipeline ∧ chunk = .action body := by
  constructor
  · intro parsed
    match chunk, parsed with
    | .action body, parsed =>
      cases found : Pipeline.ofBody body with
      | error fault => simp [ofChunk, found, bind, Except.bind] at parsed
      | ok other =>
        simp only [ofChunk, found, bind, Except.bind, pure, Except.pure, Except.ok.injEq,
          Segment.action.injEq] at parsed
        exact ⟨body, parsed ▸ found, rfl⟩
  · rintro ⟨body, found, rfl⟩
    simp [ofChunk, found, bind, Except.bind, pure, Except.pure]

private theorem exists_chunk_iff {segment : Segment} {stretch : List Char} :
    (∃ chunk : Chunk, ofChunk chunk = .ok segment ∧ chunk.IsWhole ∧ chunk.written = stretch) ↔
      segment.IsCanonical ∧ segment.Spells stretch := by
  cases segment with
  | text literal =>
    simp only [ofChunk_eq_text_iff]
    constructor
    · rintro ⟨chunk, rfl, whole, rfl⟩
      exact ⟨⟨by simpa using whole.1, whole.2⟩, rfl⟩
    · rintro ⟨⟨filled, whole⟩, rfl⟩
      exact ⟨_, rfl, ⟨by simpa using filled, whole⟩, rfl⟩
  | action pipeline =>
    simp only [ofChunk_eq_action_iff, Pipeline.ofBody_eq_ok_iff]
    constructor
    · rintro ⟨chunk, ⟨body, ⟨canonical, spelled⟩, rfl⟩, whole, rfl⟩
      exact ⟨canonical, body, spelled, rfl⟩
    · rintro ⟨canonical, body, spelled, rfl⟩
      refine ⟨_, ⟨body, ⟨canonical, spelled⟩, rfl⟩, ?_, rfl⟩
      intro closing
      have braces := closing.sublist.count_le '}'
      have none := List.count_eq_zero.mpr (spelled.not_mem canonical)
      simp [List.count_append, none] at braces

theorem unclosed_not_mem {chunks : List Chunk} {segments : List Segment}
    (parsed : List.Forall₂ (fun chunk segment => ofChunk chunk = .ok segment) chunks segments) :
    .unclosed ∉ chunks := by
  induction parsed with
  | nil => simp
  | cons head _ ih =>
    rw [List.mem_cons, not_or]
    refine ⟨?_, ih⟩
    rintro rfl
    contradiction

private theorem mayPrecede_iff {chunk next : Chunk} {segment nextSegment : Segment}
    (parsed : ofChunk chunk = .ok segment) (nextParsed : ofChunk next = .ok nextSegment) :
    chunk.MayPrecede next ↔ segment.MayPrecede nextSegment := by
  cases segment with
  | text literal =>
    obtain rfl := ofChunk_eq_text_iff.mp parsed
    cases nextSegment with
    | text other =>
      obtain rfl := ofChunk_eq_text_iff.mp nextParsed
      exact Iff.rfl
    | action pipeline =>
      obtain ⟨body, _, rfl⟩ := ofChunk_eq_action_iff.mp nextParsed
      exact Iff.rfl
  | action pipeline =>
    obtain ⟨body, _, rfl⟩ := ofChunk_eq_action_iff.mp parsed
    exact Iff.rfl

private theorem isChain_iff {chunks : List Chunk} {segments : List Segment}
    (parsed : List.Forall₂ (fun chunk segment => ofChunk chunk = .ok segment) chunks segments) :
    chunks.IsChain Chunk.MayPrecede ↔ segments.IsChain MayPrecede := by
  induction parsed with
  | nil => simp
  | cons head tail ih =>
    cases tail with
    | nil => simp
    | cons next _ =>
      rw [List.isChain_cons_cons, List.isChain_cons_cons, mayPrecede_iff head next, ih]

private theorem exists_chunks_iff {segments : List Segment} {stretches : List (List Char)} :
    (∃ chunks : List Chunk,
      List.Forall₂ (fun chunk segment => ofChunk chunk = .ok segment) chunks segments ∧
        (∀ chunk ∈ chunks, chunk.IsWhole) ∧ chunks.map Chunk.written = stretches) ↔
      (∀ segment ∈ segments, segment.IsCanonical) ∧ List.Forall₂ Spells segments stretches := by
  induction segments generalizing stretches with
  | nil =>
    simp only [List.forall₂_nil_right_iff, List.forall₂_nil_left_iff]
    constructor
    · rintro ⟨chunks, rfl, _, rfl⟩
      simp
    · rintro ⟨_, rfl⟩
      exact ⟨[], rfl, by simp, rfl⟩
  | cons segment segments ih =>
    constructor
    · rintro ⟨chunks, parsed, whole, rfl⟩
      obtain ⟨chunk, rest, head, tail, rfl⟩ := List.forall₂_cons_right_iff.mp parsed
      obtain ⟨headWhole, tailWhole⟩ := List.forall_mem_cons.mp whole
      obtain ⟨canonical, spelled⟩ := exists_chunk_iff.mp ⟨chunk, head, headWhole, rfl⟩
      obtain ⟨restCanonical, restSpelled⟩ := ih.mp ⟨rest, tail, tailWhole, rfl⟩
      exact ⟨List.forall_mem_cons.mpr ⟨canonical, restCanonical⟩, .cons spelled restSpelled⟩
    · rintro ⟨canonical, spelled⟩
      obtain ⟨headCanonical, tailCanonical⟩ := List.forall_mem_cons.mp canonical
      obtain ⟨stretch, rest, head, tail, rfl⟩ := List.forall₂_cons_left_iff.mp spelled
      obtain ⟨chunk, parsed, whole, rfl⟩ := exists_chunk_iff.mpr ⟨headCanonical, head⟩
      obtain ⟨chunks, restParsed, restWhole, rfl⟩ := ih.mpr ⟨tailCanonical, tail⟩
      have allWhole := List.forall_mem_cons.mpr ⟨whole, restWhole⟩
      exact ⟨chunk :: chunks, .cons parsed restParsed, allWhole, rfl⟩

end Segment

namespace PathTemplate

/-- A template that can be told apart from its spellings. -/
def IsCanonical (template : PathTemplate) : Prop :=
  (∀ segment ∈ template.segments, segment.IsCanonical) ∧
    template.segments.IsChain Segment.MayPrecede

/-- A path expression spells a template by stretches that spell its segments. -/
def Spells (template : PathTemplate) (source : List Char) : Prop :=
  ∃ stretches, List.Forall₂ Segment.Spells template.segments stretches ∧ source = stretches.flatten

theorem parseText_eq_ok_iff_forall₂ {source : List Char} {template : PathTemplate} :
    parseText source = .ok template ↔ List.Forall₂ (fun chunk segment =>
      Segment.ofChunk chunk = .ok segment) (Chunk.split none source) template.segments := by
  rw [← mapM_eq_ok_iff, parseText]
  cases parsed : (Chunk.split none source).mapM Segment.ofChunk with
  | error fault => simp [bind, Except.bind]
  | ok segments =>
    cases template
    simp [bind, Except.bind, pure, Except.pure]

/-- Parsing accepts the spellings of canonical templates and gives the template that was spelled. -/
theorem parseText_eq_ok_iff {source : List Char} {template : PathTemplate} :
    parseText source = .ok template ↔ template.IsCanonical ∧ template.Spells source := by
  rw [parseText_eq_ok_iff_forall₂]
  constructor
  · intro parsed
    obtain ⟨whole, chain, nothingLost⟩ :=
      Chunk.split_eq_iff.mp ⟨rfl, Segment.unclosed_not_mem parsed⟩
    obtain ⟨canonical, spelled⟩ := Segment.exists_chunks_iff.mp ⟨_, parsed, whole, rfl⟩
    refine ⟨⟨canonical, (Segment.isChain_iff parsed).mp chain⟩, _, spelled, ?_⟩
    rw [← List.flatMap_def, nothingLost]
  · rintro ⟨⟨canonical, chain⟩, stretches, spelled, rfl⟩
    obtain ⟨chunks, parsed, whole, rfl⟩ := Segment.exists_chunks_iff.mpr ⟨canonical, spelled⟩
    obtain ⟨split, _⟩ :=
      Chunk.split_eq_iff.mpr ⟨whole, (Segment.isChain_iff parsed).mpr chain, rfl⟩
    rwa [← List.flatMap_def, split]

theorem parse_eq_ok_iff {source : String} {template : PathTemplate} :
    parse source = .ok template ↔ template.IsCanonical ∧ template.Spells source.toList := by
  rw [← parseText_eq_ok_iff, parse]
  cases parseText source.toList <;> simp

end PathTemplate

end Splice
