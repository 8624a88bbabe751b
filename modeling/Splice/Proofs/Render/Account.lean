import Splice.Aws.Adapter
import Splice.Aws.Library
import Splice.Proofs.Render.Course

/-! # The log of a rendering

A rendering logs two entries for every supported placeholder, none for the others, and one that sums
up what became of them. The main statement, `render?_accounts`, says what the entries hold, and that
the events of the adapters stand between the two entries of the placeholder they were fetched for.
-/

namespace Splice

/-- An event as the log shows it. -/
structure LogEntry where
  level : Level
  message : String
  fields : List (String × FieldValue)
  deriving DecidableEq, Repr

/-- The entry of an event. -/
def Event.entry (event : Event) : LogEntry :=
  ⟨event.level, event.message, event.fields⟩

namespace Outcome

/-- Whether a provider gave a value. -/
def isResolved : Outcome → Bool
  | resolved _ => true
  | _ => false

/-- Whether the path has no value, or the call failed. -/
def isFailed : Outcome → Bool
  | failed _ => true
  | _ => false

/-- Whether a placeholder belongs to no provider. -/
def isUnsupported : Outcome → Bool
  | unsupported => true
  | _ => false

private theorem countP_kinds (outcomes : List Outcome) :
    outcomes.countP isResolved + outcomes.countP isFailed + outcomes.countP isUnsupported =
      outcomes.length := by
  induction outcomes with
  | nil => rfl
  | cons outcome rest ih =>
    cases outcome <;>
      simp only [List.countP_cons, List.length_cons, isResolved, isFailed, isUnsupported] <;>
      simp <;> omega

end Outcome

/-- The events of a log that carry a message. -/
def withMessage (message : String) (events : List Event) : List Event :=
  events.filter (·.message == message)

theorem withMessage_append (message : String) (front back : List Event) :
    withMessage message (front ++ back) = withMessage message front ++ withMessage message back :=
  List.filter_append ..

/-- The messages that a rendering logs itself. -/
def renderingMessages : List String :=
  ["Dispatching placeholder", "Resolved placeholder", "Failed to resolve placeholder",
    "Rendered document"]

private theorem withMessage_eq_nil {message : String} {events : List Event}
    (foreign : message ∉ renderingMessages)
    (own : ∀ event ∈ events, event.message ∈ renderingMessages) :
    withMessage message events = [] := by
  rw [withMessage, List.filter_eq_nil_iff]
  intro event logged same
  rw [← beq_iff_eq.mp same] at foreign
  exact foreign (own event logged)

namespace Document.Placeholder

/-- The entries about a placeholder, given what became of it: that it is dispatched to its provider,
and that it was resolved or why it failed. -/
inductive Entries (placeholder : Placeholder) : Outcome → List LogEntry → Prop
  | resolved {provider : Provider} {value : String} : placeholder.BelongsTo provider →
      Entries placeholder (.resolved value)
        [⟨.debug, "Dispatching placeholder", [("provider", .text provider.name)]⟩,
          ⟨.debug, "Resolved placeholder", [("offset", .number placeholder.start)]⟩]
  | failed {provider : Provider} {error : ResolveError} : placeholder.BelongsTo provider →
      Entries placeholder (.failed error)
        [⟨.debug, "Dispatching placeholder", [("provider", .text provider.name)]⟩,
          ⟨.warn, "Failed to resolve placeholder", [("offset", .number placeholder.start),
            ("kind", .text error.kind.label), ("error", .text error.message)]⟩]
  | unsupported : ¬ placeholder.IsSupported → Entries placeholder .unsupported []

end Document.Placeholder

namespace Visit

/-- The events that the rendering itself logs in a visit. -/
def ownEvents (visit : Visit) : List Event :=
  (visit.placeholder.call?.toList.map fun call => .dispatching call.provider) ++
    visit.step.value.events visit.placeholder.start

/-- The events that the adapters log in a visit. -/
def adapterEvents (gateway : Gateway) (visit : Visit) : List Event :=
  visit.step.calls.flatMap fun call => (gateway call).events

variable {circumstances : Circumstances} {visit : Visit}

private theorem events_eq
    (done : circumstances.carryOut? visit.before visit.placeholder.call? = some visit.step) :
    visit.events = visit.ownEvents.take 1 ++ visit.adapterEvents circumstances.gateway ++
      visit.ownEvents.drop 1 := by
  have left := Circumstances.value_carryOut?_eq_unsupported_iff done
  rw [events, Circumstances.events_carryOut? done]
  cases asked : visit.placeholder.call? with
  | none => simp [ownEvents, adapterEvents, asked, left.mpr asked, Outcome.events]
  | some call => simp [ownEvents, adapterEvents, asked]

private theorem message_of_mem_ownEvents {event : Event} (logged : event ∈ visit.ownEvents) :
    event.message ∈ renderingMessages := by
  rcases List.mem_append.mp logged with opening | closing
  · obtain ⟨call, _, rfl⟩ := List.mem_map.mp opening
    simp [Event.message, renderingMessages]
  · cases comes : visit.step.value <;> rw [comes] at closing <;>
      simp only [Outcome.events, List.mem_singleton, List.not_mem_nil] at closing <;>
      simp [closing, Event.message, renderingMessages]

private theorem withMessage_events {message : String} (foreign : message ∉ renderingMessages)
    (done : circumstances.carryOut? visit.before visit.placeholder.call? = some visit.step) :
    withMessage message visit.events =
      withMessage message (visit.adapterEvents circumstances.gateway) := by
  have own : withMessage message visit.ownEvents = [] :=
    withMessage_eq_nil foreign fun _ logged => message_of_mem_ownEvents logged
  rw [← List.take_append_drop 1 visit.ownEvents, withMessage_append, List.append_eq_nil_iff] at own
  rw [events_eq done, withMessage_append, withMessage_append, own.1, own.2, List.nil_append,
    List.append_nil]

private theorem entries_ownEvents
    (done : circumstances.carryOut? visit.before visit.placeholder.call? = some visit.step) :
    visit.placeholder.Entries visit.step.value (visit.ownEvents.map Event.entry) := by
  have left := Circumstances.value_carryOut?_eq_unsupported_iff done
  unfold ownEvents
  cases asked : visit.placeholder.call? with
  | none =>
    rw [left.mpr asked]
    exact .unsupported (Document.Placeholder.call?_eq_none_iff.mp asked)
  | some call =>
    have belongs := Document.Placeholder.belongsTo_of_call? asked
    cases comes : visit.step.value with
    | resolved value => exact .resolved belongs
    | failed error => exact .failed belongs
    | unsupported =>
      rw [left.mp comes] at asked
      contradiction

end Visit

namespace Filled

/-- Pieces are counted by the outcomes of their placeholders. -/
theorem countP_ofOutcomes {counts : Filled → Bool} {kind : Outcome → Bool}
    (literal : ∀ text, counts (.literal text) = false)
    (placeholder : ∀ inner outcome, counts (.placeholder inner outcome) = kind outcome)
    {offset : Nat} {pieces : List Piece} {outcomes : List Outcome}
    (complete : outcomes.length = (Document.placeholdersFrom offset pieces).length) :
    (ofOutcomes pieces outcomes).countP counts = outcomes.countP kind := by
  induction pieces generalizing offset outcomes with
  | nil =>
    obtain rfl : outcomes = [] := List.eq_nil_of_length_eq_zero complete
    rfl
  | cons piece rest ih =>
    cases piece with
    | literal text =>
      rw [ofOutcomes, List.countP_cons, literal]
      exact ih complete
    | placeholder inner =>
      cases outcomes with
      | nil => contradiction
      | cons outcome outcomes =>
        rw [ofOutcomes, List.countP_cons, List.countP_cons, placeholder,
          ih (Nat.succ.inj complete)]

/-- The summary of an output counts the outcomes of its placeholders. -/
theorem summary_ofOutcomes {offset : Nat} {pieces : List Piece} {outcomes : List Outcome}
    (complete : outcomes.length = (Document.placeholdersFrom offset pieces).length) :
    summary (ofOutcomes pieces outcomes) = .rendered (outcomes.countP Outcome.isResolved)
      (outcomes.countP Outcome.isFailed) (outcomes.countP Outcome.isUnsupported) := by
  have resolved := @countP_ofOutcomes isResolved Outcome.isResolved (fun _ => rfl)
    (fun _ outcome => by cases outcome <;> rfl) _ _ _ complete
  have failed := @countP_ofOutcomes isFailed Outcome.isFailed (fun _ => rfl)
    (fun _ outcome => by cases outcome <;> rfl) _ _ _ complete
  have skipped := @countP_ofOutcomes isSkipped Outcome.isUnsupported (fun _ => rfl)
    (fun _ outcome => by cases outcome <;> rfl) _ _ _ complete
  rw [summary, resolved, failed, skipped]

end Filled

namespace Document

private theorem Placeholder.Entries.countP_resolved {placeholder : Placeholder} {outcome : Outcome}
    {entries : List LogEntry} (about : placeholder.Entries outcome entries) :
    entries.countP (·.message == "Resolved placeholder") =
      if outcome.isResolved then 1 else 0 := by
  cases about <;> simp [Outcome.isResolved]

private theorem Placeholder.Entries.countP_failed {placeholder : Placeholder} {outcome : Outcome}
    {entries : List LogEntry} (about : placeholder.Entries outcome entries) :
    entries.countP (·.message == "Failed to resolve placeholder") =
      if outcome.isFailed then 1 else 0 := by
  cases about <;> simp [Outcome.isFailed]

/-- The entries of visits: what a rendering logs, without the adapters, before it sums up. -/
def entries (visits : List Visit) : List LogEntry :=
  (visits.flatMap Visit.ownEvents).map Event.entry

private theorem countP_entries {visits : List Visit} {counts : LogEntry → Bool}
    {kind : Outcome → Bool}
    (once : ∀ visit ∈ visits, (visit.ownEvents.map Event.entry).countP counts =
      if kind visit.step.value then 1 else 0) :
    (entries visits).countP counts = (visits.map (·.step.value)).countP kind := by
  induction visits with
  | nil => rfl
  | cons visit rest ih =>
    obtain ⟨first, others⟩ := List.forall_mem_cons.mp once
    have counted := ih others
    rw [entries] at counted
    rw [entries, List.flatMap_cons, List.map_append, List.countP_append, first, counted,
      List.map_cons, List.countP_cons, Nat.add_comm]

end Document

namespace Circumstances

variable {circumstances : Circumstances} {context : Context} {document : String} {t : Timeline}

/-- In a rendering only the adapters log another message than those of a rendering. -/
theorem withMessage_report {message : String} (foreign : message ∉ renderingMessages)
    {visits : List Visit} {after : Timeline} (course : circumstances.Course context t visits after)
    (visited : visits.map Visit.placeholder = Document.scan document) :
    withMessage message (Document.report document visits after).events =
      visits.flatMap fun visit =>
        withMessage message (visit.adapterEvents circumstances.gateway) := by
  have carriedOut := course.carriedOut (Document.mem_scan_of_visited visited)
  have summing (filled : List Filled) : withMessage message
      (if Document.hasPlaceholders document then [Filled.summary filled] else []) = [] := by
    split
    · exact withMessage_eq_nil foreign
        (List.forall_mem_singleton.mpr (by simp [Filled.summary, Event.message, renderingMessages]))
    · rfl
  rw [Document.report, withMessage_append, summing, List.append_nil, withMessage,
    List.filter_flatMap]
  exact List.flatMap_congr fun visit member =>
    Visit.withMessage_events foreign (carriedOut visit member)

private theorem countP_isUnsupported {visits : List Visit}
    (visited : visits.map Visit.placeholder = Document.scan document)
    (carriedOut : ∀ visit ∈ visits,
      circumstances.carryOut? visit.before visit.placeholder.call? = some visit.step) :
    (visits.map (·.step.value)).countP Outcome.isUnsupported =
      (Document.scan document).countP (¬ ·.IsSupported) := by
  rw [← visited, List.countP_map, List.countP_map]
  apply List.countP_congr
  intro visit visiting
  have left := value_carryOut?_eq_unsupported_iff (carriedOut visit visiting)
  rw [Document.Placeholder.call?_eq_none_iff] at left
  simp only [Function.comp_apply, decide_eq_true_eq, ← left]
  cases visit.step.value <;> simp [Outcome.isUnsupported]

/-- A rendering that ends accounts for every placeholder of its document, in order. A supported one
is dispatched to its provider and then resolved or failed, at its offset, and a failure is logged
with the kind and the message of the error that its marker shows. An unsupported one is not logged.
The log ends with the numbers of these entries and of the unsupported placeholders, except that a
document without placeholders logs nothing. What the adapters log for a placeholder stands between
its two entries. -/
theorem render?_accounts {step : Step String}
    (rendered : circumstances.render? context document t = some step) :
    ∃ (visits : List Visit) (closing : List Event),
      circumstances.Course context t visits step.after ∧
      visits.map Visit.placeholder = Document.scan document ∧
      (∃ replace, (∀ visit ∈ visits, replace visit.placeholder = visit.replacement) ∧
        Document.substitute? document replace = some step.value) ∧
      (∀ visit ∈ visits, ∀ error, visit.step.value = .failed error →
        visit.replacement = "\x7b\x7bERROR:" ++ error.message ++ "\x7d\x7d") ∧
      step.events = visits.flatMap Visit.events ++ closing ∧
      (∀ visit ∈ visits,
        visit.events = visit.ownEvents.take 1 ++ visit.adapterEvents circumstances.gateway ++
          visit.ownEvents.drop 1 ∧
        visit.placeholder.Entries visit.step.value (visit.ownEvents.map Event.entry)) ∧
      let resolved := (Document.entries visits).countP (·.message == "Resolved placeholder")
      let failed := (Document.entries visits).countP (·.message == "Failed to resolve placeholder")
      let skipped := (Document.scan document).countP (¬ ·.IsSupported)
      resolved + failed + skipped = (Document.scan document).length ∧
      if Document.scan document = [] then step.events = []
      else closing.map Event.entry = [⟨.debug, "Rendered document", [("resolved", .number resolved),
        ("failed", .number failed), ("skipped", .number skipped)]⟩] := by
  obtain ⟨visits, after, course, visited, rfl⟩ := render?_eq_some_iff.mp rendered
  have carriedOut := course.carriedOut (Document.mem_scan_of_visited visited)
  obtain ⟨outcome, comes⟩ := Document.exists_outcome visited
  have about : ∀ visit ∈ visits,
      visit.placeholder.Entries visit.step.value (visit.ownEvents.map Event.entry) :=
    fun visit visiting => Visit.entries_ownEvents (carriedOut visit visiting)
  have resolved := Document.countP_entries fun visit visiting =>
    (about visit visiting).countP_resolved
  have failed := Document.countP_entries fun visit visiting => (about visit visiting).countP_failed
  have skipped := countP_isUnsupported visited carriedOut
  have complete := Document.length_outcomes visited
  refine ⟨visits, _, course, visited,
    ⟨_, ?_, Document.substitute?_report visited comes⟩, ?_, rfl, ?_, ?_, ?_⟩
  · intro visit visiting
    rw [← comes visit visiting]
    rfl
  · intro visit visiting error fails
    rw [Visit.replacement, fails]
    rfl
  · intro visit visiting
    exact ⟨Visit.events_eq (carriedOut visit visiting), about visit visiting⟩
  · rw [resolved, failed, ← skipped, Outcome.countP_kinds, complete]
  · rw [resolved, failed, ← skipped]
    split
    · next empty =>
      obtain rfl : visits = [] := List.map_eq_nil_iff.mp (visited.trans empty)
      have absent : ¬ Document.hasPlaceholders document = true := by
        rwa [Document.hasPlaceholders_iff, not_not]
      simp only [Document.report, if_neg absent]
      rfl
    · next present =>
      rw [if_pos ((Document.hasPlaceholders_iff document).mpr present),
        Filled.summary_ofOutcomes complete]
      rfl

/-- A value, a placeholder of no provider and a failure, over a gateway that logs its requests. -/
theorem render?_accounts_fetching :
    let gateway := Aws.gateway (Aws.Library.client 0) fun
      | .getParameter .., _ => .value "v"
      | .getSecretValue _, _ => .unreachable "reset"
    let circumstances : Circumstances := { gateway := gateway }
    let document :=
      "é\x7b\x7baws:ssm:p\x7d\x7d\x7b\x7bx\x7d\x7d\x7b\x7baws:secretsmanager:s#k\x7d\x7d"
    ∃ (step : Step String) (visits : List Visit),
      circumstances.render? {} document {} = some step ∧
      step.events = [.dispatching .ssm, .fetchingParameter "p", .resolved 2,
        .dispatching .secretsManager, .fetchingSecret "s" true,
        .failed 20 (.transport "unhandled error: dispatch failure: reset"), .rendered 1 1 1] ∧
      visits.map Visit.placeholder = Document.scan document ∧
      ∀ visit ∈ visits,
        visit.placeholder.Entries visit.step.value (visit.ownEvents.map Event.entry) := by
  intro gateway circumstances document
  have rendered : (circumstances.render? {} document {}).map Step.events =
      some [.dispatching .ssm, .fetchingParameter "p", .resolved 2,
        .dispatching .secretsManager, .fetchingSecret "s" true,
        .failed 20 (.transport "unhandled error: dispatch failure: reset"), .rendered 1 1 1] := by
    decide +kernel
  obtain ⟨step, ended, shown⟩ := Option.map_eq_some_iff.mp rendered
  obtain ⟨visits, _, _, visited, _, _, _, accounted, _⟩ := render?_accounts ended
  exact ⟨step, visits, ended, shown, visited, fun visit visiting => (accounted visit visiting).2⟩

end Circumstances

end Splice
