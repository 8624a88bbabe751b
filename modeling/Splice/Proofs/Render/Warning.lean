import Splice.Invocation
import Splice.Proofs.Render.Account
import Splice.Proofs.Render.Opening
import Splice.Session

/-! # The warning about unresolved placeholders

An invocation looks for markers in the finished output, not at what became of the placeholders. The
main statement, `render?_warns`, says that it misses no failure, and that it warns without one only
if the document or a value brings an opening brace of its own or a placeholder that looks like a
marker.
-/

namespace Splice

namespace Filled

private theorem output_append (front back : List Filled) :
    output (front ++ back) = output front ++ output back := by
  induction front with
  | nil => simp [output]
  | cons piece rest ih => rw [List.cons_append, output_cons, output_cons, ih, String.append_assoc]

private theorem marker_occursIn_output {filled : List Filled} {piece : Filled}
    (member : piece ∈ filled)
    (fails : piece.isFailed = true) : Marker.occursIn (output filled) = true := by
  obtain ⟨before, after, rfl⟩ := List.append_of_mem member
  rw [Marker.occursIn, Text.occursIn_eq_true_iff, output_append, output_cons]
  match piece with
  | .literal _ => contradiction
  | .placeholder _ (.resolved _) => contradiction
  | .placeholder _ .unsupported => contradiction
  | .placeholder inner (.failed error) =>
    refine ⟨(output before).toList,
      error.message.toList ++ "\x7d\x7d".toList ++ (output after).toList, ?_⟩
    simp [text, Marker.ofMessage]

/-- Where nothing failed and nothing else opens braces, a marker can only be found in a placeholder
that was left as it is and looks like one. -/
private theorem exists_lookalike {filled : List Filled}
    (unbraced : ∀ piece ∈ filled, piece.Unbraced)
    (sound : ∀ piece ∈ filled, piece.isFailed = false)
    (marked : Marker.occursIn (output filled) = true) :
    ∃ kept, .placeholder kept .unsupported ∈ filled ∧ "ERROR:".toList <+: kept := by
  rw [Marker.occursIn, Text.occursIn_eq_true_iff] at marked
  obtain ⟨front, tail, found⟩ := marked
  have occurs : (output filled).toList = front ++ '{' :: '{' :: ("ERROR:".toList ++ tail) := by
    rw [← found]
    simp [Marker.opening]
  obtain ⟨before, piece, after, body, rfl, _, starts, behind⟩ := exists_opening unbraced occurs
  have member : piece ∈ before ++ piece :: after := by simp
  have opened : '{' ∈ piece.text.toList := by simp [starts]
  cases piece with
  | literal text =>
    have unopened : '{' ∉ text := unbraced _ member
    rw [Filled.text, String.toList_ofList] at opened
    exact absurd opened unopened
  | placeholder kept outcome =>
    cases outcome with
    | resolved value => exact absurd opened (unbraced _ member).2
    | failed error =>
      have unfailed := sound _ member
      contradiction
    | unsupported =>
      refine ⟨kept, member, ?_⟩
      rw [toList_text_unsupported] at starts
      simp only [List.cons.injEq, true_and] at starts
      subst starts
      -- The letters of a marker hold no closing brace, so they end before the placeholder does.
      rw [List.append_assoc] at behind
      rcases List.append_eq_append_iff.mp behind with ⟨gap, same, _⟩ | ⟨gap, short, same⟩
      · exact ⟨gap, same.symm⟩
      · cases gap with
        | nil => exact ⟨[], by simpa using short⟩
        | cons c gap =>
          obtain rfl : '}' = c := (List.cons.inj same).1
          have closed : '}' ∈ "ERROR:".toList := by simp [short]
          exact absurd closed (by decide)

end Filled

/-- The events of a log that warn of unresolved placeholders. -/
def warnings (events : List Event) : List Event :=
  events.filter (·.message == "Output contains unresolved placeholders")

namespace Circumstances

variable {circumstances : Circumstances} {context : Context} {document : String}
  {t after : Timeline} {visits : List Visit}

private theorem warnings_report (course : circumstances.Course context t visits after)
    (visited : visits.map Visit.placeholder = Document.scan document) :
    warnings (Document.report document visits after).events =
      visits.flatMap fun visit => warnings (visit.adapterEvents circumstances.gateway) :=
  withMessage_report (by decide) course visited

private theorem marked_of_failed (visited : visits.map Visit.placeholder = Document.scan document)
    {visit : Visit} (visiting : visit ∈ visits) {error : ResolveError}
    (fails : visit.step.value = .failed error) :
    Marker.occursIn (Document.report document visits after).value = true := by
  have counted := @Filled.countP_ofOutcomes Filled.isFailed Outcome.isFailed (fun _ => rfl)
    (fun _ outcome => by cases outcome <;> rfl) _ _ _ (Document.length_outcomes visited)
  have some : 0 < (visits.map (·.step.value)).countP Outcome.isFailed := by
    rw [List.countP_pos_iff]
    exact ⟨_, List.mem_map_of_mem visiting, by rw [fails]; rfl⟩
  rw [← counted, List.countP_pos_iff] at some
  obtain ⟨piece, member, failed⟩ := some
  exact Filled.marker_occursIn_output member failed

private theorem exists_failed_of_marked (course : circumstances.Course context t visits after)
    (visited : visits.map Visit.placeholder = Document.scan document)
    (literals : ∀ text, .literal text ∈ Document.pieces document → '{' ∉ text)
    (values : ∀ visit ∈ visits, ∀ value, visit.step.value = .resolved value → '{' ∉ value.toList)
    (unlike : ∀ placeholder ∈ Document.scan document, ¬ placeholder.IsSupported →
      ¬ "ERROR:".toList <+: placeholder.inner.toList)
    (marked : Marker.occursIn (Document.report document visits after).value = true) :
    ∃ visit ∈ visits, ∃ error, visit.step.value = .failed error := by
  by_contra sound
  simp only [not_exists, not_and] at sound
  have carriedOut := course.carriedOut (Document.mem_scan_of_visited visited)
  have pieces : ∀ piece ∈ Filled.ofOutcomes (Document.pieces document)
      (visits.map (·.step.value)), piece.Unbraced ∧ piece.isFailed = false ∧
        ∀ kept, piece = .placeholder kept .unsupported → ¬ "ERROR:".toList <+: kept := by
    refine Filled.forall_mem_ofOutcomes visited ?_ ?_
    · intro text member
      exact ⟨literals text member, rfl, nofun⟩
    · intro inner member visit visiting named
      have isInner := Document.isInner_of_mem_piecesAfter member
      cases comes : visit.step.value with
      | resolved value => exact ⟨⟨isInner, values visit visiting value comes⟩, rfl, nofun⟩
      | failed error => exact absurd comes (sound visit visiting error)
      | unsupported =>
        refine ⟨⟨isInner, trivial⟩, rfl, ?_⟩
        rintro kept same lookalike
        obtain ⟨rfl, _⟩ := Filled.placeholder.inj same
        have unasked := (value_carryOut?_eq_unsupported_iff (carriedOut visit visiting)).mp comes
        rw [Document.Placeholder.call?_eq_none_iff] at unasked
        have written : visit.placeholder.inner.toList = inner := by
          rw [named, String.toList_ofList]
        apply unlike _ (Document.mem_scan_of_visited visited visit visiting) unasked
        rw [written]
        exact lookalike
  obtain ⟨kept, member, lookalike⟩ := Filled.exists_lookalike (fun piece member =>
    (pieces piece member).1) (fun piece member => (pieces piece member).2.1) marked
  exact (pieces _ member).2.2 kept rfl lookalike

end Circumstances

namespace Invocation

/-- The warning that an invocation adds to the events of a rendering. -/
def warning (arguments : CommandLine.Arguments) (output : String) : List Event :=
  if Marker.occursIn output then [.unresolved arguments.source] else []

theorem render?_eq_some_iff {arguments : CommandLine.Arguments} {circumstances : Circumstances}
    {document : String} {t : Timeline} {step : Step String} :
    render? arguments circumstances document t = some step ↔
      ∃ rendering : Step String,
        ({ circumstances with deadline := arguments.deadline, heedful := true } :
          Circumstances).render? ⟨arguments.env⟩ document t = some rendering ∧
        step = { rendering with
          events := rendering.events ++ warning arguments rendering.value } := by
  rw [render?, Option.map_eq_some_iff]
  refine exists_congr fun rendering => and_congr_right fun _ => ?_
  rw [eq_comm, warning]
  split <;> simp

/-- If a placeholder failed, the output of an invocation holds a marker, and behind the events of
the rendering, which hold no warning but what adapters may log, there is one warning. If no
placeholder failed, there is neither, provided that neither the literal text of the document nor a
resolved value holds an opening brace and that no unsupported placeholder looks like a marker. -/
theorem render?_warns {arguments : CommandLine.Arguments} {circumstances : Circumstances}
    {document : String} {t : Timeline} {step : Step String}
    (rendered : render? arguments circumstances document t = some step) :
    let heeding := { circumstances with deadline := arguments.deadline, heedful := true }
    (∃ visits, heeding.Course ⟨arguments.env⟩ t visits step.after ∧
      visits.map Visit.placeholder = Document.scan document) ∧
    ∀ visits after, heeding.Course ⟨arguments.env⟩ t visits after →
      visits.map Visit.placeholder = Document.scan document →
      ∃ events,
        heeding.render? ⟨arguments.env⟩ document t = some { step with events := events } ∧
        (warnings events =
          visits.flatMap fun visit => warnings (visit.adapterEvents heeding.gateway)) ∧
        ((∃ visit ∈ visits, ∃ error, visit.step.value = .failed error) →
          Marker.occursIn step.value = true ∧
          step.events = events ++ [.unresolved arguments.source]) ∧
        ((∀ text, .literal text ∈ Document.pieces document → '{' ∉ text) →
          (∀ visit ∈ visits, ∀ value,
            visit.step.value = .resolved value → '{' ∉ value.toList) →
          (∀ placeholder ∈ Document.scan document, ¬ placeholder.IsSupported →
            ¬ "ERROR:".toList <+: placeholder.inner.toList) →
          Marker.occursIn step.value = true ∨ step.events ≠ events →
          ∃ visit ∈ visits, ∃ error, visit.step.value = .failed error) := by
  intro heeding
  obtain ⟨rendering, finished, rfl⟩ := render?_eq_some_iff.mp rendered
  constructor
  · obtain ⟨visits, _, course, visited, rfl⟩ := Circumstances.render?_eq_some_iff.mp finished
    exact ⟨visits, course, visited⟩
  · intro visits after course visited
    have reported := Circumstances.render?_eq_some_iff.mpr ⟨visits, _, course, visited, rfl⟩
    obtain rfl := Option.some.inj (finished.symm.trans reported)
    refine ⟨(Document.report document visits after).events, finished,
      Circumstances.warnings_report course visited, ?_, ?_⟩
    · rintro ⟨visit, visiting, error, fails⟩
      have marked : Marker.occursIn (Document.report document visits after).value = true :=
        Circumstances.marked_of_failed visited visiting fails
      exact ⟨marked, congrArg (_ ++ ·) (if_pos marked)⟩
    · intro literals values unlike noticed
      refine Circumstances.exists_failed_of_marked course visited literals values unlike ?_
      refine noticed.elim id fun warned => ?_
      by_contra unmarked
      apply warned
      rw [warning, if_neg unmarked, List.append_nil]

/-- A value, a placeholder of no provider and a secret that cannot be reached. -/
theorem render?_warns_unreachable :
    let gateway := Aws.gateway (Aws.Library.client 0) fun
      | .getParameter .., _ => .value "v"
      | .getSecretValue _, _ => .unreachable "reset"
    let failure := "unhandled error: dispatch failure: reset"
    let arguments : CommandLine.Arguments := ⟨"in", none, "", none, none, none, false⟩
    let document := "a\x7b\x7baws:ssm:p\x7d\x7d\x7b\x7bx\x7d\x7d" ++
      "\x7b\x7baws:secretsmanager:s\x7d\x7d"
    ∃ step, render? arguments { gateway := gateway } document {} = some step ∧
      Marker.occursIn step.value = true ∧
      step.events = [.dispatching .ssm, .fetchingParameter "p", .resolved 1,
        .dispatching .secretsManager, .fetchingSecret "s" false,
        .failed 19 (.transport failure), .rendered 1 1 1, .unresolved "in"] := by
  intro gateway failure arguments document
  let heeding : Circumstances := { gateway := gateway, heedful := true }
  let visits : List Visit :=
    [⟨.ofInner 1 "aws:ssm:p".toList, {}, ⟨.resolved "v", [.parameter "p"],
        [.dispatching .ssm, .fetchingParameter "p"], { started := 1 }⟩⟩,
      ⟨.ofInner 14 "x".toList, { started := 1 }, ⟨.unsupported, [], [], { started := 1 }⟩⟩,
      ⟨.ofInner 19 "aws:secretsmanager:s".toList, { started := 1 },
        ⟨.failed (.transport failure), [.secret "s" none],
        [.dispatching .secretsManager, .fetchingSecret "s" false], { started := 2 }⟩⟩]
  have course : heeding.Course {} {} visits { started := 2 } :=
    .cons rfl (.cons rfl (.cons rfl (.nil _)))
  have visited : visits.map Visit.placeholder = Document.scan document := by decide +kernel
  have found : (render? arguments { gateway := gateway } document {}).map
      (Marker.occursIn ·.value) = some true := by decide +kernel
  obtain ⟨step, rendered, marked⟩ := Option.map_eq_some_iff.mp found
  obtain ⟨events, ownEvents, _, failed, sound⟩ := (render?_warns rendered).2 visits _ course visited
  have literals : ∀ text, .literal text ∈ Document.pieces document → '{' ∉ text := by
    have pieces : Document.pieces document = [.literal ['a'], .placeholder "aws:ssm:p".toList,
      .placeholder "x".toList, .placeholder "aws:secretsmanager:s".toList] := by decide +kernel
    simp [pieces]
  have values : ∀ visit ∈ visits, ∀ value, visit.step.value = .resolved value →
      '{' ∉ value.toList := by
    simp [visits]
  have unlike : ∀ placeholder ∈ Document.scan document, ¬ placeholder.IsSupported →
      ¬ "ERROR:".toList <+: placeholder.inner.toList := by decide +kernel
  have own : (heeding.render? {} document {}).map Step.events =
      some [.dispatching .ssm, .fetchingParameter "p", .resolved 1,
        .dispatching .secretsManager, .fetchingSecret "s" false,
        .failed 19 (.transport failure), .rendered 1 1 1] := by decide +kernel
  obtain rfl := Option.some.inj ((congrArg (Option.map Step.events) ownEvents).symm.trans own)
  exact ⟨step, rendered, marked, (failed (sound literals values unlike (.inl marked))).2⟩

/-- Two halves of a marker may come from the document and from a value. -/
example :
    let world : World := { stores := { parameters := [("p", "OR:")] } }
    let arguments : CommandLine.Arguments := ⟨"in", none, "", none, none, none, false⟩
    let document := "\x7b\x7bERR\x7b\x7baws:ssm:p\x7d\x7d"
    (render? arguments (world.circumstances none true) document {}).map
      (warnings ·.events) = some [.unresolved "in"] := by
  decide +kernel

end Invocation

end Splice
