import Splice.Proofs.PathTemplate.Execution
import Splice.Proofs.PathTemplate.Grammar

/-! # Path expressions behind each other

What a path expression is split into does not change when more text follows it, except that text at
the seam is put together and an action without an end goes on. The main statement,
`parse_append_exact`, says what the concatenation of two path expressions stands for, and which
fault is reported of it.
-/

namespace Splice

/-- Segments followed by others. Text that meets text at the seam is one text. -/
def Segment.join : List Segment → List Segment → List Segment
  | [.text literal], .text other :: rest => .text (literal ++ other) :: rest
  | segment :: segments, others => segment :: join segments others
  | [], others => others

/-- The segments of a template, followed by those of another one. -/
def PathTemplate.append (template other : PathTemplate) : PathTemplate :=
  ⟨Segment.join template.segments other.segments⟩

namespace Chunk

/-- Stretches followed by others. Text that meets text at the seam is one stretch. -/
def join : List Chunk → List Chunk → List Chunk
  | [.text literal], .text other :: rest => .text (literal ++ other) :: rest
  | chunk :: chunks, others => chunk :: join chunks others
  | [], others => others

private theorem join_action (body : List Char) (chunks others : List Chunk) :
    join (.action body :: chunks) others = .action body :: join chunks others := by
  simp [join]

theorem join_cons_cons (chunk next : Chunk) (chunks others : List Chunk) :
    join (chunk :: next :: chunks) others = chunk :: join (next :: chunks) others := by
  simp [join]

private theorem join_consText (c : Char) (chunks others : List Chunk) :
    join (consText c chunks) others = consText c (join chunks others) := by
  match chunks with
  | [] => cases others with
    | nil => rfl
    | cons other rest => cases other <;> rfl
  | [.text literal] => cases others with
    | nil => rfl
    | cons other rest => cases other <;> rfl
  | [.action body] => rfl
  | [.unclosed] => rfl
  | chunk :: next :: rest =>
    rw [join_cons_cons]
    cases chunk <;> simp only [consText, join_cons_cons]

/-- A path expression without an open end is split alone, and so is what follows it, if no action is
opened at the seam. -/
private theorem split_append {front back : List Char} (closed : .unclosed ∉ split none front)
    (seam : front.getLast? = some '{' → ¬ ['{'] <+: back) :
    split none (front ++ back) = join (split none front) (split none back) := by
  -- Only the last character in front can meet the seam, so both conditions pass to every rest.
  induction front using split_induction with
  | nil => simp [split, join]
  | unclosed rest never =>
    rw [split, never] at closed
    exact absurd (List.mem_singleton_self _) closed
  | action body rest whole ih =>
    rw [split_action_append whole] at closed
    rw [List.cons_append, List.cons_append, List.append_assoc, split_action_append whole,
      split_action_append whole, join_action, ih]
    · intro member
      exact closed (List.mem_cons_of_mem _ member)
    · intro last
      apply seam
      simp [List.getLast?_cons, List.getLast?_append, last]
  | text c rest literal ih =>
    have opened := not_opening literal seam
    rw [split_none_cons literal, unclosed_mem_consText_iff] at closed
    rw [List.cons_append, split_none_cons opened, split_none_cons literal, join_consText, ih closed]
    intro last
    apply seam
    simp [List.getLast?_cons, last]

end Chunk

private theorem mapM_cons_eq_error_iff {ε α β : Type} {f : α → Except ε β} {x : α} {xs : List α}
    {error : ε} :
    (x :: xs).mapM f = .error error ↔
      f x = .error error ∨ (∃ y, f x = .ok y) ∧ xs.mapM f = .error error := by
  rw [List.mapM_cons]
  cases f x with
  | error other => simp [bind, Except.bind]
  | ok y => cases xs.mapM f <;> simp [bind, Except.bind, pure, Except.pure]

private theorem mapM_cons_eq_error_iff_of_ok {ε α β : Type} {f : α → Except ε β} {x : α} {y : β}
    {xs : List α} {error : ε} (head : f x = .ok y) :
    (x :: xs).mapM f = .error error ↔ xs.mapM f = .error error := by
  rw [mapM_cons_eq_error_iff, head]
  simp

namespace Segment

private theorem ofChunk_text (literal : List Char) :
    ofChunk (.text literal) = .ok (.text (String.ofList literal)) :=
  rfl

private theorem join_cons_cons (segment next : Segment) (segments others : List Segment) :
    join (segment :: next :: segments) others = segment :: join (next :: segments) others := by
  simp [join]

private theorem forall₂_join {chunks others : List Chunk} {segments otherSegments : List Segment}
    (front : List.Forall₂ (fun chunk segment => ofChunk chunk = .ok segment) chunks segments)
    (back : List.Forall₂ (fun chunk segment => ofChunk chunk = .ok segment) others otherSegments) :
    List.Forall₂ (fun chunk segment => ofChunk chunk = .ok segment) (Chunk.join chunks others)
      (join segments otherSegments) := by
  induction front with
  | nil => simpa [Chunk.join, join] using back
  | @cons chunk segment _ _ head tail ih =>
    cases tail with
    | cons next tail =>
      rw [Chunk.join_cons_cons, join_cons_cons]
      exact .cons head ih
    | nil =>
      cases back with
      | nil => simpa [Chunk.join, join] using head
      | @cons other otherSegment _ _ first rest =>
        cases segment with
        | action pipeline =>
          obtain ⟨body, _, rfl⟩ := ofChunk_eq_action_iff.mp head
          exact .cons head (.cons first rest)
        | text literal =>
          obtain rfl := ofChunk_eq_text_iff.mp head
          cases otherSegment with
          | action pipeline =>
            obtain ⟨body, _, rfl⟩ := ofChunk_eq_action_iff.mp first
            exact .cons head (.cons first rest)
          | text otherLiteral =>
            obtain rfl := ofChunk_eq_text_iff.mp first
            refine .cons ?_ rest
            rw [ofChunk_eq_text_iff, String.toList_append]

private theorem mapM_ofChunk_join_error {chunks others : List Chunk} {segments : List Segment}
    {fault : ParseFault}
    (front : List.Forall₂ (fun chunk segment => ofChunk chunk = .ok segment) chunks segments)
    (fails : others.mapM ofChunk = .error fault) :
    (Chunk.join chunks others).mapM ofChunk = .error fault := by
  induction front with
  | nil => simpa [Chunk.join] using fails
  | @cons chunk segment _ _ head tail ih =>
    cases tail with
    | cons next tail =>
      rw [Chunk.join_cons_cons]
      exact (mapM_cons_eq_error_iff_of_ok head).mpr ih
    | nil =>
      cases others with
      | nil => contradiction
      | cons other rest =>
        have kept (apart : Chunk.join [chunk] (other :: rest) = chunk :: other :: rest) :
            (Chunk.join [chunk] (other :: rest)).mapM ofChunk = .error fault := by
          rw [apart]
          exact (mapM_cons_eq_error_iff_of_ok head).mpr fails
        cases chunk with
        | action body => exact kept rfl
        | unclosed => contradiction
        | text literal =>
          cases other with
          | action body => exact kept rfl
          | unclosed => exact kept rfl
          | text other =>
            have behind := (mapM_cons_eq_error_iff_of_ok (ofChunk_text other)).mp fails
            exact (mapM_cons_eq_error_iff_of_ok (ofChunk_text (literal ++ other))).mpr behind

private theorem runSegments_join (context : Context) (front back : List Segment) :
    PathTemplate.runSegments context (join front back) = do
      let head ← PathTemplate.runSegments context front
      let tail ← PathTemplate.runSegments context back
      return head ++ tail := by
  fun_induction join front back with
  | case1 literal other rest =>
    simp only [PathTemplate.runSegments, Segment.run]
    cases PathTemplate.runSegments context rest with
    | error fault => rfl
    | ok tail => simp [bind, Except.bind, pure, Except.pure, String.append_assoc]
  | case2 segment segments others apart ih =>
    simp only [PathTemplate.runSegments, ih, bind_assoc, pure_bind]
    cases segment.run context with
    | error fault => rfl
    | ok head =>
      cases PathTemplate.runSegments context segments with
      | error fault => rfl
      | ok middle => simp [bind, Except.bind, pure, Except.pure, String.append_assoc]
  | case3 others =>
    cases PathTemplate.runSegments context others <;>
      simp [PathTemplate.runSegments, bind, Except.bind, pure, Except.pure, *]

private theorem mapM_ofChunk_consText_eq_error_iff {c : Char} {chunks : List Chunk}
    {fault : ParseFault} :
    (Chunk.consText c chunks).mapM ofChunk = .error fault ↔ chunks.mapM ofChunk = .error fault := by
  unfold Chunk.consText
  split
  · rw [mapM_cons_eq_error_iff_of_ok (ofChunk_text _),
      mapM_cons_eq_error_iff_of_ok (ofChunk_text _)]
  · rw [mapM_cons_eq_error_iff_of_ok (ofChunk_text _)]

/-- A fault inside a path expression is reported as well if more text follows. Only an action that
has not been closed can still be mended. -/
private theorem mapM_ofChunk_split_append {front : List Char} {fault : ParseFault}
    (fails : (Chunk.split none front).mapM ofChunk = .error fault)
    (closed : fault ≠ .unclosedAction) (back : List Char) :
    (Chunk.split none (front ++ back)).mapM ofChunk = .error fault := by
  induction front using Chunk.split_induction with
  | nil => contradiction
  | unclosed rest never =>
    rw [Chunk.split, never] at fails
    cases fails
    contradiction
  | action body rest whole ih =>
    rw [Chunk.split_action_append whole, mapM_cons_eq_error_iff] at fails
    rw [List.cons_append, List.cons_append, List.append_assoc, Chunk.split_action_append whole,
      mapM_cons_eq_error_iff]
    rcases fails with here | ⟨parsed, behind⟩
    · exact .inl here
    · exact .inr ⟨parsed, ih behind⟩
  | text c rest literal ih =>
    rw [Chunk.split_none_cons literal, mapM_ofChunk_consText_eq_error_iff] at fails
    have opened : ¬ ['{', '{'] <+: c :: (rest ++ back) := by
      cases rest with
      | nil => contradiction
      | cons d rest => simpa [List.cons_prefix_cons] using literal
    rw [List.cons_append, Chunk.split_none_cons opened, mapM_ofChunk_consText_eq_error_iff]
    exact ih fails

end Segment

namespace PathTemplate

private theorem parseText_append {front back : List Char} {template : PathTemplate}
    (parsed : parseText front = .ok template)
    (seam : front.getLast? = some '{' → ¬ ['{'] <+: back) :
    parseText (front ++ back) = template.append <$> parseText back := by
  have chunks := parseText_eq_ok_iff_forall₂.mp parsed
  have split := Chunk.split_append (Segment.unclosed_not_mem chunks) seam
  cases other : (Chunk.split none back).mapM Segment.ofChunk with
  | error fault =>
    rw [parseText, split, Segment.mapM_ofChunk_join_error chunks other, parseText, other]
    rfl
  | ok segments =>
    have joined := mapM_eq_ok_iff.mpr (Segment.forall₂_join chunks (mapM_eq_ok_iff.mp other))
    rw [parseText, split, joined, parseText, other]
    rfl

private theorem parseText_append_error {front : List Char} {fault : ParseFault}
    (fails : parseText front = .error fault) (closed : fault ≠ .unclosedAction)
    (back : List Char) : parseText (front ++ back) = .error fault := by
  have first : (Chunk.split none front).mapM Segment.ofChunk = .error fault := by
    unfold parseText at fails
    cases mapped : (Chunk.split none front).mapM Segment.ofChunk with
    | error other =>
      rw [mapped] at fails
      cases fails
      rfl
    | ok segments =>
      rw [mapped] at fails
      contradiction
  rw [parseText, Segment.mapM_ofChunk_split_append first closed]
  rfl

private theorem execute_append (template other : PathTemplate) (context : Context) :
    (template.append other).execute context = do
      let head ← template.execute context
      let tail ← other.execute context
      return head ++ tail := by
  unfold execute append
  rw [Segment.runSegments_join]
  cases runSegments context template.segments with
  | error fault => rfl
  | ok head => cases runSegments context other.segments <;> rfl

private theorem parseText_of_parse {source : String} {template : PathTemplate}
    (parsed : parse source = .ok template) : parseText source.toList = .ok template := by
  unfold parse at parsed
  split at parsed
  · next other same =>
    cases parsed
    exact same
  · contradiction

private theorem parse_append {front back : String} {template : PathTemplate}
    (parsed : parse front = .ok template)
    (seam : front.toList.getLast? = some '{' → back.toList.head? ≠ some '{') :
    parse (front ++ back) = template.append <$> parse back := by
  have apart : front.toList.getLast? = some '{' → ¬ ['{'] <+: back.toList := by
    intro last opening
    apply seam last
    obtain ⟨rest, same⟩ := opening
    rw [← same]
    rfl
  unfold parse
  rw [String.toList_append, parseText_append (parseText_of_parse parsed) apart]
  cases parseText back.toList <;> rfl

private theorem parse_append_error {front : String} {error : ExpressionError}
    (fails : parse front = .error error) (closed : error ≠ .parse "unclosed action")
    (back : String) : parse (front ++ back) = .error error := by
  unfold parse at fails
  split at fails
  · contradiction
  · next fault failed =>
    cases fails
    have other : fault ≠ .unclosedAction := by
      rintro rfl
      exact closed rfl
    rw [parse, String.toList_append, parseText_append_error failed other]

/-- A path expression that parses can be followed by any other, if the seam does not open an action:
the segments of both stand behind each other, and the faults are those of the second. If there are
none, the concatenation has the texts of both, or it fails as the first of them that fails. A fault
of parsing comes before all others: a path expression that cannot be carried out parses, and a fault
other than an action without an end is reported whatever follows. -/
theorem parse_append_exact :
    (∀ (front back : String) (template : PathTemplate), parse front = .ok template →
      (front.toList.getLast? = some '{' → back.toList.head? ≠ some '{') →
        parse (front ++ back) = template.append <$> parse back ∧
        (∀ other, parse back = .ok other → ∀ context, evaluate (front ++ back) context = do
          let head ← evaluate front context
          let tail ← evaluate back context
          return head ++ tail) ∧
        ∀ error, parse back = .error error →
          ∀ context, evaluate (front ++ back) context = .error error) ∧
    (∀ source context message, evaluate source context = .error (.execution message) →
      ∃ template, parse source = .ok template) ∧
    ∀ (front back : String) (error : ExpressionError), parse front = .error error →
      error ≠ .parse "unclosed action" → parse (front ++ back) = .error error := by
  refine ⟨?_, ?_, ?_⟩
  · intro front back template parsed seam
    have joined := parse_append parsed seam
    refine ⟨joined, ?_, ?_⟩
    · intro other otherParsed context
      rw [otherParsed] at joined
      rw [evaluate_of_parse joined, evaluate_of_parse parsed, evaluate_of_parse otherParsed,
        execute_append]
    · intro error fails context
      rw [fails] at joined
      exact evaluate_of_parse_error joined context
  · intro source context message fails
    cases parsed : parse source with
    | ok template => exact ⟨template, rfl⟩
    | error error =>
      rw [evaluate_of_parse_error parsed] at fails
      unfold parse at parsed
      split at parsed
      · contradiction
      · cases parsed
        cases fails
  · intro front back error fails closed
    exact parse_append_error fails closed back

/-- Text at the seam is put together, and a brace there opens nothing. -/
theorem parse_append_exact_seam :
    let front := "/a\x7b\x7benv\x7d\x7dx"
    let back := "\x7by\x7b\x7b .Env | toLower \x7d\x7d"
    ∃ template, parse front = .ok template ∧
      (front.toList.getLast? = some '{' → back.toList.head? ≠ some '{') ∧
      parse (front ++ back) = template.append <$> parse back ∧
      template.append <$> parse back = .ok ⟨[.text "/a", .action ⟨.call .env, []⟩, .text "x\x7by",
        .action ⟨.field "Env", [.call .toLower]⟩]⟩ ∧
      evaluate (front ++ back) ⟨"DEV"⟩ = .ok "/aDEVx\x7bydev" := by
  intro front back
  have parsed : parse front = .ok ⟨[.text "/a", .action ⟨.call .env, []⟩, .text "x"]⟩ :=
    eq_ok_of_toOption (by decide +kernel)
  have other : parse back = .ok ⟨[.text "\x7by", .action ⟨.field "Env", [.call .toLower]⟩]⟩ :=
    eq_ok_of_toOption (by decide +kernel)
  have seam : front.toList.getLast? = some '{' → back.toList.head? ≠ some '{' := by decide
  obtain ⟨joined, texts, _⟩ := parse_append_exact.1 front back _ parsed seam
  refine ⟨_, parsed, seam, joined, ?_, ?_⟩
  · rw [other]
    rfl
  · rw [texts _ other, evaluate_of_parse parsed, evaluate_of_parse other]
    rfl

end PathTemplate

end Splice
