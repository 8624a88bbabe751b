import Splice.Proofs.Aws.Lookup
import Splice.Proofs.Render.Context
import Splice.Proofs.Render.Cut
import Splice.Proofs.Render.Exchange

/-! # AWS and the stores in memory

A service that holds what the stores in memory hold says so in another way: by an entry, by an entry
without a text, or by an error of its own. The main statement, `lookup_agrees`, says that the two
cannot be told apart by the results of calls, nor by the renderings made from them.
-/

namespace Splice

namespace Stores

/-- What a service that holds the contents of the stores may answer to a request. The type of an
error may stand behind a namespace, and any message may come with it. -/
inductive Reply (stores : Stores) : Aws.Request → Aws.Answer → Prop
  | parameter {name value : String} : stores.parameters.lookup name = some value →
      Reply stores (.getParameter name true) (.value value)
  | noParameter {name code : String} {message : Option String} :
      stores.parameters.lookup name = none → Aws.errorType code = "ParameterNotFound" →
      Reply stores (.getParameter name true) (.serviceError code message)
  | text {id payload : String} : stores.secrets.lookup id = some (some payload) →
      Reply stores (.getSecretValue id) (.value payload)
  | binary {id : String} : stores.secrets.lookup id = some none →
      Reply stores (.getSecretValue id) .empty
  | noSecret {id code : String} {message : Option String} :
      stores.secrets.lookup id = none → Aws.errorType code = "ResourceNotFoundException" →
      Reply stores (.getSecretValue id) (.serviceError code message)

/-- A service that holds the contents of the stores. -/
def service (stores : Stores) : Aws.Service
  | .getParameter name _, _ =>
    match stores.parameters.lookup name with
    | some value => .value value
    | none => .serviceError "ParameterNotFound" none
  | .getSecretValue id, _ =>
    match stores.secrets.lookup id with
    | some (some payload) => .value payload
    | some none => .empty
    | none => .serviceError "com.amazonaws#ResourceNotFoundException" (some "unknown secret")

end Stores

namespace Aws

variable {client : Client} {transient : Request → Answer → Prop} {service : Service}
  {stores : Stores}

/-- The answers to the requests of all calls, each sent for the first time, come from the contents
of the stores. -/
def Serves (service : Service) (stores : Stores) : Prop :=
  ∀ call, stores.Reply (request call) (service (request call) 0)

private theorem serves_service (stores : Stores) : Serves stores.service stores := by
  intro call
  cases call with
  | parameter name =>
    simp only [request, Stores.service]
    split
    · next found => exact .parameter found
    · next missing => exact .noParameter missing (by decide)
  | secret id field =>
    simp only [request, Stores.service]
    split
    · next found => exact .text found
    · next found => exact .binary found
    · next missing => exact .noSecret missing (by decide)

private theorem ofAnswer_eq_answer {call : Call} {answer : Answer}
    (reply : stores.Reply (request call) answer) :
    ofAnswer client call answer = stores.answer call := by
  cases call with
  | parameter name =>
    cases reply with
    | parameter found => simp [ofAnswer, ofEntry, Stores.answer, Stores.parameter, found]
    | noParameter missing declared =>
      simp [ofAnswer, Stores.answer, Stores.parameter, missing, declared, request,
        Request.absenceError, notFound]
  | secret id field =>
    cases reply with
    | text found => simp [ofAnswer, ofEntry, Stores.answer, Stores.secret, found]
    | binary found => simp [ofAnswer, ofEntry, Stores.answer, Stores.secret, found]
    | noSecret missing declared =>
      simp [ofAnswer, Stores.answer, Stores.secret, missing, declared, request,
        Request.absenceError, notFound]

private theorem not_isFailure_of_reply {call : Call} {answer : Answer}
    (reply : stores.Reply (request call) answer) :
    ¬ answer.IsFailure (request call).absenceError := by
  intro failure
  cases call with
  | parameter name =>
    cases reply with
    | parameter found => cases failure
    | noParameter missing declared => cases failure with | error other => exact other declared
  | secret id field =>
    cases reply with
    | text found => cases failure
    | binary found => cases failure
    | noSecret missing declared => cases failure with | error other => exact other declared

private theorem Serves.lookup_eq (serves : Serves service stores) (sends : client.Sends transient)
    (call : Call) :
    lookup client service call =
      { requests := [request call], event := announcement call, result := stores.answer call } := by
  have settled : ¬ transient (request call) (service (request call) 0) := fun passing =>
    not_isFailure_of_reply (serves call) (sends.failure _ _ passing)
  rw [lookup_of_delivered (sends.deliver_of_settled settled), ofAnswer_eq_answer (serves call)]
  rfl

private theorem exists_render?_stores (stores : Stores) (circumstances : Circumstances)
    (context : Context) (document : String) (t : Timeline) :
    ∃ step, (circumstances.asking stores.gateway).render? context document t = some step := by
  apply Circumstances.exists_render?_of_answered
  intro call _ _ never
  contradiction

private theorem prompt_stores (stores : Stores) (circumstances : Circumstances) :
    (circumstances.asking stores.gateway).Prompt :=
  fun _ => ⟨0, rfl, fun limit _ => Nat.zero_le limit⟩

/-- A service that holds what the stores hold gives the same result to every call, by one request.
A document is rendered over it as it is over the stores, whatever the circumstances are, and the
requests are those of the calls made to the stores, each for the value of the path of a placeholder.
If the service takes its time, the rendering is still the same as long as all answers come before
the deadline and nobody cancels while it is under way. -/
theorem lookup_agrees (sends : client.Sends transient) (serves : Serves service stores) :
    (∀ call, (lookup client service call).result = stores.answer call ∧
      (lookup client service call).requests = [request call]) ∧
    (∀ (circumstances : Circumstances) (context : Context) (document : String) (t : Timeline),
      ∃ step served,
        (circumstances.asking stores.gateway).render? context document t = some step ∧
        (circumstances.asking (gateway client service)).render? context document t = some served ∧
        served.value = step.value ∧ served.calls = step.calls ∧ served.after = step.after ∧
        served.calls.flatMap (fun call => (lookup client service call).requests) =
          step.calls.map request ∧
        ∀ call ∈ step.calls, ∃ placeholder ∈ Document.scan document, ∃ reference : Reference,
          reference.IsWritten placeholder.inner ∧
          PathTemplate.evaluate reference.path context = .ok call.key ∧
          reference.call call.key = call) ∧
    ∀ (circumstances : Circumstances) (context : Context) (document : String) (t : Timeline)
      (latency : Call → Latency),
      (circumstances.asking ((gateway client service).paced latency)).Prompt →
      circumstances.Settled t →
      ∃ step served,
        (circumstances.asking stores.gateway).render? context document t = some step ∧
        (circumstances.asking ((gateway client service).paced latency)).render? context document t =
          some served ∧
        served.value = step.value ∧ served.calls = step.calls := by
  have result (call : Call) : (lookup client service call).result = stores.answer call :=
    congrArg Lookup.result (serves.lookup_eq sends call)
  have requests (call : Call) : (lookup client service call).requests = [request call] :=
    congrArg Lookup.requests (serves.lookup_eq sends call)
  have agree : stores.gateway.Agree (gateway client service) := result
  refine ⟨fun call => ⟨result call, requests call⟩, ?_, ?_⟩
  · intro circumstances context document t
    obtain ⟨step, rendered⟩ := exists_render?_stores stores circumstances context document t
    obtain ⟨served, otherRendered, alike, after⟩ :=
      Circumstances.render?_asking agree (fun _ => rfl) rendered
    refine ⟨step, served, rendered, otherRendered, alike.value, alike.calls, after.symm, ?_, ?_⟩
    · rw [alike.calls, List.flatMap_congr fun call _ => requests call]
      exact List.map_eq_flatMap.symm
    · intro call made
      exact Circumstances.exists_reference_of_mem_calls rendered made
  · intro circumstances context document t latency prompt settled
    obtain ⟨step, rendered⟩ := exists_render?_stores stores circumstances context document t
    have pacedAgree : stores.gateway.Agree ((gateway client service).paced latency) := agree
    obtain ⟨served, otherRendered, alike⟩ := Circumstances.render?_asking_of_prompt pacedAgree
      (prompt_stores stores circumstances) prompt settled rendered
    exact ⟨step, served, rendered, otherRendered, alike.value, alike.calls⟩

/-- A field of a secret, a secret without a text, and a parameter that is not there. -/
theorem lookup_agrees_binary :
    let stores : Stores := { secrets := [("s", some "\x7b\"k\": \"v\"\x7d"), ("b", none)] }
    let document := "\x7b\x7baws:secretsmanager:s#k\x7d\x7d" ++
      "\x7b\x7baws:secretsmanager:b#k\x7d\x7d\x7b\x7baws:ssm:p\x7d\x7d"
    let output := "v\x7b\x7bERROR:secret b has no string value\x7d\x7d" ++
      "\x7b\x7bERROR:parameter p not found\x7d\x7d"
    let client := Library.client 2
    let circumstances : Circumstances := { gateway := gateway client stores.service }
    Serves stores.service stores ∧
      ∃ served : Step String, circumstances.render? {} document {} = some served ∧
        served.value = output ∧
        served.calls.flatMap (fun call => (lookup client stores.service call).requests) =
          [.getSecretValue "s", .getSecretValue "b", .getParameter "p" true] := by
  intro stores document output client circumstances
  have serves := serves_service stores
  obtain ⟨step, served, rendered, otherRendered, value, _, _, requests, _⟩ :=
    (lookup_agrees (Library.sends_client 2) serves).2.1 circumstances {} document {}
  have expected : ((circumstances.asking stores.gateway).render? {} document {}).map
      (fun step => (step.value, step.calls)) =
      some (output, [.secret "s" (some "k"), .secret "b" (some "k"), .parameter "p"]) := by
    decide +kernel
  rw [rendered] at expected
  have shown := Option.some.inj expected
  refine ⟨serves, served, otherRendered, value.trans (congrArg Prod.fst shown), ?_⟩
  have calls : step.calls =
      [.secret "s" (some "k"), .secret "b" (some "k"), .parameter "p"] := congrArg Prod.snd shown
  rw [requests, calls]
  rfl

/-- A call to the service that is under way when its deadline passes, or when somebody cancels, ends
otherwise than the same call to the stores. -/
theorem render?_of_late_answer :
    let stores : Stores := { parameters := [("p", "v")] }
    let late := (gateway (Library.client 2) stores.service).paced fun _ => .after 2
    let document := "\x7b\x7baws:ssm:p\x7d\x7d"
    let output (circumstances : Circumstances) (t : Timeline) : Option String :=
      (circumstances.render? {} document t).map Step.value
    Serves stores.service stores ∧
      output { gateway := stores.gateway, deadline := some 1 } {} = some "v" ∧
      output { gateway := late, deadline := some 1 } {} =
        some "\x7b\x7bERROR:provider call timed out after 1ms\x7d\x7d" ∧
      output { gateway := stores.gateway, heedful := true } { alarms := [1] } = some "v" ∧
      output { gateway := late, heedful := true } { alarms := [1] } =
        some "\x7b\x7bERROR:operation cancelled\x7d\x7d" := by
  intro stores late document output
  exact ⟨serves_service stores, by decide +kernel, by decide +kernel, by decide +kernel,
    by decide +kernel⟩

end Aws

end Splice
