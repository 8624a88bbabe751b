import Splice.Proofs.Render.Context
import Splice.Proofs.Render.Exchange
import Splice.Proofs.Secret.Twins

/-! # What a failed lookup discloses

Whatever gateway a payload comes through, a field of it is looked up in the same way. If two
payloads are twins, and are no objects of texts, then documents that ask for fields of them are
rendered alike: neither the markers in the output nor the log tell what the literal holds. The main
statement is `render?_undisclosed`. It leaves out the literals that stand in the place of another
value: `select_names_literal` shows what the errors of such payloads look like.
-/

namespace Splice

/-- The same gateway with another payload of one secret. -/
def Gateway.holding (gateway : Gateway) (id : String) (payload : Option String) : Gateway
  | .parameter name => gateway (.parameter name)
  | .secret asked field =>
    if asked = id then
      { gateway (.secret asked field) with result := Secret.select asked payload field }
    else gateway (.secret asked field)

theorem Stores.gateway_putSecret (stores : Stores) (id : String) (payload : Option String) :
    (stores.putSecret id payload).gateway = stores.gateway.holding id payload := by
  funext call
  cases call with
  | parameter name => rfl
  | secret asked field =>
    by_cases same : asked = id
    · subst same
      simp [gateway, Gateway.holding, answer]
    · have other : (asked == id) = false := beq_eq_false_iff_ne.mpr same
      simp only [gateway, Gateway.holding, answer, secret, putSecret, if_neg same, List.lookup_cons,
        other]

namespace Circumstances

variable {circumstances : Circumstances} {context : Context} {document : String} {t : Timeline}
  {first second : Gateway}

/-! ## Gateways that answer the calls of a document alike -/

private theorem carryOut?_asking {asked : Option Call}
    (same : ∀ call, asked = some call → second call = first call) :
    (circumstances.asking second).carryOut? t asked =
      (circumstances.asking first).carryOut? t asked := by
  cases asked with
  | none => rfl
  | some call =>
    simp only [carryOut?, call?, await?, undisturbed?, asking, same call rfl]
    rfl

private theorem render?_asking_of_calls
    (same : ∀ placeholder ∈ Document.scan document, ∀ call, placeholder.call? = some call →
      second call = first call)
    {step : Step String}
    (rendered : (circumstances.asking first).render? context document t = some step) :
    (circumstances.asking second).render? context document t = some step := by
  obtain ⟨visits, after, course, visited, rfl⟩ := render?_eq_some_iff.mp rendered
  have members := Document.mem_scan_of_visited visited
  have otherCourse : (circumstances.asking second).Course context t visits after := by
    apply course.transfer
    intro visit visiting
    have dispatched := course.dispatched visit visiting
    rw [dispatch?_of_mem_scan (members visit visiting)] at dispatched ⊢
    rw [carryOut?_asking (same _ (members visit visiting)), dispatched]
  exact render?_eq_some_iff.mpr ⟨visits, after, otherCourse, visited, rfl⟩

private theorem render?_asking_congr
    (same : ∀ placeholder ∈ Document.scan document, ∀ call, placeholder.call? = some call →
      second call = first call) :
    (circumstances.asking second).render? context document t =
      (circumstances.asking first).render? context document t :=
  Option.ext fun _ => ⟨render?_asking_of_calls fun placeholder member call asked =>
    (same placeholder member call asked).symm, render?_asking_of_calls same⟩

/-! ## Twins behind a gateway -/

/-- A document that does not ask for the whole of a secret. -/
def AsksForFields (document id : String) : Prop :=
  ∀ placeholder ∈ Document.scan document, ¬ (Reference.secret id none).IsWritten placeholder.inner

private theorem holding_eq_of_call {id : String} {payload other : Option String} (gateway : Gateway)
    (fields : AsksForFields document id)
    (same : ∀ key, Secret.select id other (some key) = Secret.select id payload (some key)) :
    ∀ placeholder ∈ Document.scan document, ∀ call, placeholder.call? = some call →
      gateway.holding id other call = gateway.holding id payload call := by
  intro placeholder member call asked
  obtain ⟨reference, written, rfl⟩ := call?_eq_some_iff.mp asked
  cases reference with
  | parameter path => rfl
  | secret path field =>
    change gateway.holding id other (.secret path field) =
      gateway.holding id payload (.secret path field)
    by_cases isId : path = id
    · subst isId
      cases field with
      | none => exact absurd written (fields placeholder member)
      | some key => simp only [Gateway.holding, if_pos, same key]
    · simp only [Gateway.holding, if_neg isId]

/-- Two payloads that differ inside one literal, of the same length, are rejected both or not at
all, and with the same error, unless the literal stands in the place of another value. If they are
rejected, no document that asks for fields of the secret only tells them apart: the outputs, with
the markers in them, the calls and the logs are the same. -/
theorem render?_undisclosed {kind : Secret.Literal} {front : List Char} {text other : String}
    (twins : Secret.Twins kind front text.toList other.toList) (apart : ¬ kind.StandsIn front) :
    (∀ id key reason,
      Secret.select id (some text) (some key) = .error (.invalidJson id reason) ↔
        Secret.select id (some other) (some key) = .error (.invalidJson id reason)) ∧
    ∀ id, (∃ key reason,
        Secret.select id (some text) (some key) = .error (.invalidJson id reason)) →
      ∀ (circumstances : Circumstances) (gateway : Gateway) (context : Context) (document : String)
        (t : Timeline), AsksForFields document id →
        (circumstances.asking (gateway.holding id (some other))).render? context document t =
          (circumstances.asking (gateway.holding id (some text))).render? context document t := by
  have select (id key reason : String) :=
    Secret.select_eq_invalidJson_of_twins twins apart id key reason
  refine ⟨select, ?_⟩
  rintro id ⟨key, reason, rejected⟩ circumstances gateway context document t fields
  refine render?_asking_congr (holding_eq_of_call gateway fields fun field => ?_)
  have everyField := Secret.select_invalidJson_any_key rejected field
  rw [everyField, (select id field reason).mp everyField]

/-- A comma too many, behind a text that the error does not show. -/
theorem render?_undisclosed_trailing :
    let payload (value : String) := "\x7b\"pass\":\"" ++ value ++ "\",\x7d"
    let stores : Stores := { parameters := [("p", "v")] }
    let circumstances (value : String) : Circumstances :=
      { gateway := (stores.putSecret "s" (some (payload value))).gateway }
    let rendering (value : String) :=
      (circumstances value).render? {} "\x7b\x7baws:secretsmanager:s#pass\x7d\x7d" {}
    rendering "hunter3" = rendering "hunter2" ∧
      (rendering "hunter3").map (fun step => (step.value, step.events)) = some
        ("\x7b\x7bERROR:secret s is not valid JSON: trailing comma at line 1 column 19\x7d\x7d",
          [.dispatching .secretsManager,
            .failed 0 (.invalidJson "s" "trailing comma at line 1 column 19"),
            .rendered 0 1 0]) := by
  intro payload stores circumstances rendering
  have varies : Secret.Literal.Varies .text ('\"' :: ("hunter2".toList ++ '\"' :: [',', '}']))
      ('\"' :: ("hunter3".toList ++ '\"' :: [',', '}'])) :=
    .text [',', '}'] (Secret.spellsText_self (by simp)) (Secret.spellsText_self (by simp))
      (by decide)
  have twins : Secret.Twins .text "\x7b\"pass\":".toList (payload "hunter2").toList
      (payload "hunter3").toList := ⟨_, _, .inl (by decide), varies, by decide, by decide⟩
  have apart : ¬ Secret.Literal.StandsIn .text "\x7b\"pass\":".toList := by
    intro stands
    cases stands with
    | text blank => exact absurd (blank '{' (by decide)) (by decide)
  have fields : AsksForFields "\x7b\x7baws:secretsmanager:s#pass\x7d\x7d" "s" := by
    simp only [AsksForFields, ← Reference.parse?_eq_some_iff]
    decide +kernel
  have rejected : Secret.select "s" (some (payload "hunter2")) (some "pass") =
      .error (.invalidJson "s" "trailing comma at line 1 column 19") := by decide +kernel
  have holding (value : String) : circumstances value =
      (circumstances "hunter2").asking (stores.gateway.holding "s" (some (payload value))) := by
    rw [← Stores.gateway_putSecret]
    rfl
  have alike := (render?_undisclosed twins apart).2 "s" ⟨_, _, rejected⟩ (circumstances "hunter2")
    stores.gateway {} _ {} fields
  rw [← holding, ← holding] at alike
  exact ⟨alike, by decide +kernel⟩

end Circumstances

namespace Secret

/-- A text or a number in the place of the object, and a number in the place of a text, are named by
the errors. -/
theorem select_names_literal :
    (Twins .text [] "\"hunter2\"".toList "\"hunter3\"".toList ∧
      select "s" (some "\"hunter2\"") (some "k") = .error (.invalidJson "s"
        "invalid type: string \"hunter2\", expected a map at line 1 column 9") ∧
      select "s" (some "\"hunter3\"") (some "k") = .error (.invalidJson "s"
        "invalid type: string \"hunter3\", expected a map at line 1 column 9")) ∧
    (Twins .number [] "41".toList "42".toList ∧
      select "s" (some "41") (some "k") = .error (.invalidJson "s"
        "invalid type: integer `41`, expected a map at line 1 column 2") ∧
      select "s" (some "42") (some "k") = .error (.invalidJson "s"
        "invalid type: integer `42`, expected a map at line 1 column 2")) ∧
    Twins .number "\x7b\"k\":".toList "\x7b\"k\":41\x7d".toList "\x7b\"k\":42\x7d".toList ∧
      select "s" (some "\x7b\"k\":41\x7d") (some "k") = .error (.invalidJson "s"
        "invalid type: integer `41`, expected a string at line 1 column 7") ∧
      select "s" (some "\x7b\"k\":42\x7d") (some "k") = .error (.invalidJson "s"
        "invalid type: integer `42`, expected a string at line 1 column 7") := by
  have texts : Literal.Varies .text ('\"' :: ("hunter2".toList ++ '\"' :: []))
      ('\"' :: ("hunter3".toList ++ '\"' :: [])) :=
    .text [] (spellsText_self (by simp)) (spellsText_self (by simp)) (by decide)
  have numbers (back : List Char) : Literal.Varies .number ("41".toList ++ back)
      ("42".toList ++ back) :=
    .number back ⟨⟨'4', ['1'], rfl, by decide⟩, by simp [isNumeral]⟩
      ⟨⟨'4', ['2'], rfl, by decide⟩, by simp [isNumeral]⟩ (by decide)
  refine ⟨⟨⟨_, _, .inl rfl, texts, rfl, rfl⟩, by decide +kernel, by decide +kernel⟩,
    ⟨⟨_, _, .inl rfl, numbers [], rfl, rfl⟩, by decide +kernel, by decide +kernel⟩,
    ⟨_, _, .inl (by decide), numbers ['}'], rfl, rfl⟩, by decide +kernel, by decide +kernel⟩

end Secret

end Splice
