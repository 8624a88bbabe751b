import Mathlib.Data.List.Basic
import Splice.Aws.Adapter
import Splice.Proofs.Aws.Library
import Splice.Text.Occurrence

/-! # Lookups against a service

The answer that the client brings decides what a lookup comes to. The main statement,
`lookup_exact`, says which answers are reported as an absence and which as a failure of transport,
what the text of such a failure shows, and which requests are sent.
-/

namespace Splice

namespace Text

/-- No character of a text needs an escape between quotes. -/
def ShowsItself (text : String) : Prop :=
  ∀ c ∈ text.toList, quoteChar c = [c]

/-- A printable character of ASCII that is neither a quote nor a backslash. -/
def isPlain (c : Char) : Bool :=
  32 ≤ c.toNat && c.toNat ≤ 126 && c != '\"' && c != '\\'

private theorem quoteChar_of_isPlain {c : Char} (plain : isPlain c = true) : quoteChar c = [c] := by
  simp only [isPlain, Bool.and_eq_true, decide_eq_true_eq, bne_iff_ne] at plain
  obtain ⟨⟨⟨low, high⟩, noQuote⟩, noBackslash⟩ := plain
  have shown : inRanges hiddenRanges c = false := by
    have outside : ∀ range ∈ hiddenRanges, range.2 ≤ 31 ∨ 127 ≤ range.1 := by decide +kernel
    rw [← Bool.not_eq_true, inRanges_eq_true_iff]
    rintro ⟨range, member, first, last⟩
    have apart := outside range member
    omega
  have control {d : Char} (hidden : d.toNat ≤ 31) : c ≠ d := by
    rintro rfl
    omega
  rw [quoteChar, shown]
  · rfl
  · exact noQuote
  · exact noBackslash
  all_goals exact control (by decide)

private theorem showsItself_of_all {text : String} (plain : text.toList.all isPlain = true) :
    ShowsItself text :=
  fun c member => quoteChar_of_isPlain (List.all_eq_true.mp plain c member)

private theorem toList_quote_of_showsItself {text : String} (shows : ShowsItself text) :
    (quote text).toList = '\"' :: text.toList ++ ['\"'] := by
  have same : text.toList.flatMap quoteChar = text.toList := by
    rw [List.flatMap_congr shows, List.flatMap_singleton']
  rw [quote, String.toList_ofList, same]

private theorem infix_quote_of_showsItself {text : String} (shows : ShowsItself text) :
    text.toList <:+: (quote text).toList := by
  rw [toList_quote_of_showsItself shows]
  exact ⟨['\"'], ['\"'], rfl⟩

end Text

namespace Aws

variable {client : Client}

/-! ## Answers -/

namespace Answer

/-- An error of the service of a given type. -/
def IsError (type : String) (answer : Answer) : Prop :=
  ∃ code message, answer = .serviceError code message ∧ errorType code = type

/-- An answer that brings no text. -/
def IsBare (answer : Answer) : Prop :=
  answer = .empty ∨ answer = .absent

end Answer

/-! ## Reports -/

/-- What a call reports about the answer to its request. -/
structure Reports (call : Call) (answer : Answer) (result : CallResult) : Prop where
  /-- A text that was sent is the value, or the payload to choose it from. -/
  value : ∀ text, answer = .value text →
    result = match call with
      | .parameter _ => .ok text
      | .secret id field => Secret.select id (some text) field
  parameterNotFound : ∀ name, result = .error (.parameterNotFound name) ↔
    call = .parameter name ∧ (answer.IsError "ParameterNotFound" ∨ answer.IsBare)
  secretNotFound : ∀ id, result = .error (.secretNotFound id) ↔
    (∃ field, call = .secret id field) ∧ answer.IsError "ResourceNotFoundException"
  noStringValue : ∀ id, result = .error (.noStringValue id) ↔
    (∃ field, call = .secret id field) ∧ answer.IsBare
  transport : (∃ text, result = .error (.transport text)) ↔
    answer.IsFailure (request call).absenceError
  /-- The text of a failed connection shows its cause. -/
  cause : ∀ cause, answer = .unreachable cause →
    ∃ text, result = .error (.transport text) ∧ cause.toList <:+: text.toList
  /-- The text of an error that the service declares shows its message. -/
  declared : ∀ code message text, answer = .serviceError code (some message) →
    result = .error (.transport text) → errorType code ∈ (request call).declaredErrors →
    message.toList <:+: text.toList
  /-- The text of another error shows its message between quotes. -/
  undeclared : ∀ code message text, answer = .serviceError code (some message) →
    result = .error (.transport text) → errorType code ∉ (request call).declaredErrors →
    (Text.quote message).toList <:+: text.toList ∧
      (Text.ShowsItself message → message.toList <:+: text.toList)
  invalidJson : ∀ id reason, result = .error (.invalidJson id reason) →
    ∃ text key, answer = .value text ∧ call = .secret id (some key)
  keyNotFound : ∀ key id, result = .error (.keyNotFound key id) →
    ∃ text, answer = .value text ∧ call = .secret id (some key)

/-- Where the error of a call comes from. -/
private inductive Origin (client : Client) : Call → Answer → ResolveError → Prop
  | noParameter {name : String} {answer : Answer} : answer.IsError "ParameterNotFound" →
      Origin client (.parameter name) answer (.parameterNotFound name)
  | bareParameter {name : String} {answer : Answer} : answer.IsBare →
      Origin client (.parameter name) answer (.parameterNotFound name)
  | noSecret {id : String} {field : Option String} {answer : Answer} :
      answer.IsError "ResourceNotFoundException" →
      Origin client (.secret id field) answer (.secretNotFound id)
  | bareSecret {id : String} {field : Option String} {answer : Answer} : answer.IsBare →
      Origin client (.secret id field) answer (.noStringValue id)
  | unreadable {id text key reason : String} :
      Origin client (.secret id (some key)) (.value text) (.invalidJson id reason)
  | noField {id text key : String} :
      Origin client (.secret id (some key)) (.value text) (.keyNotFound key id)
  | failure {call : Call} {answer : Answer} : answer.IsFailure (request call).absenceError →
      Origin client call answer (.transport (client.failureText (request call) answer))

private theorem origin_of_isBare {call : Call} {answer : Answer} {error : ResolveError}
    (bare : answer.IsBare) (failed : ofAnswer client call answer = .error error) :
    Origin client call answer error := by
  cases call with
  | parameter name =>
    have result : ofAnswer client (.parameter name) answer = .error (.parameterNotFound name) := by
      rcases bare with rfl | rfl <;> rfl
    cases result.symm.trans failed
    exact .bareParameter bare
  | secret id field =>
    have result : ofAnswer client (.secret id field) answer = .error (.noStringValue id) := by
      rcases bare with rfl | rfl <;> rfl
    cases result.symm.trans failed
    exact .bareSecret bare

private theorem origin_of_error {call : Call} {answer : Answer} {error : ResolveError}
    (failed : ofAnswer client call answer = .error error) : Origin client call answer error := by
  cases answer with
  | value text =>
    cases call with
    | parameter name => contradiction
    | secret id field =>
      rcases Secret.error_of_select failed with
        ⟨absent, _⟩ | ⟨_, key, _, rfl, ⟨reason, rfl⟩ | rfl⟩
      · contradiction
      · exact .unreadable
      · exact .noField
  | empty => exact origin_of_isBare (.inl rfl) failed
  | absent => exact origin_of_isBare (.inr rfl) failed
  | serviceError code message =>
    by_cases same : errorType code = (request call).absenceError
    · cases (if_pos same).symm.trans failed
      cases call with
      | parameter name => exact .noParameter ⟨code, message, rfl, same⟩
      | secret id field => exact .noSecret ⟨code, message, rfl, same⟩
    · cases (if_neg same).symm.trans failed
      exact .failure (.error same)
  | unreachable cause =>
    cases failed
    exact .failure .unreachable
  | malformed =>
    cases failed
    exact .failure .malformed

private theorem ofAnswer_of_isFailure {call : Call} {answer : Answer}
    (failure : answer.IsFailure (request call).absenceError) :
    ofAnswer client call answer =
      .error (.transport (client.failureText (request call) answer)) := by
  cases failure with
  | error other => exact if_neg other
  | unreachable => rfl
  | malformed => rfl

private theorem text_of_transport {call : Call} {answer : Answer} {text : String}
    (failed : ofAnswer client call answer = .error (.transport text)) :
    text = client.failureText (request call) answer := by
  cases origin_of_error failed with
  | failure => rfl

private theorem quote_infix_failureText {causes : Request → Answer → List String}
    (shows : client.Shows causes) {request : Request} {code message : String}
    (undeclared : errorType code ∉ request.declaredErrors) :
    (Text.quote message).toList <:+:
      (client.failureText request (.serviceError code (some message))).toList := by
  obtain ⟨rest, behind⟩ := shows.undeclared request code message undeclared
  refine List.IsInfix.trans ?_ (shows.chain _ _ _ behind)
  rw [String.toList_append, String.toList_append]
  exact List.infix_append _ _ _

private theorem reports_ofAnswer {causes : Request → Answer → List String}
    (shows : client.Shows causes) (call : Call) (answer : Answer) :
    Reports call answer (ofAnswer client call answer) where
  value := by
    rintro text rfl
    cases call <;> rfl
  parameterNotFound name := by
    constructor
    · intro failed
      cases origin_of_error failed with
      | noParameter absence => exact ⟨rfl, .inl absence⟩
      | bareParameter bare => exact ⟨rfl, .inr bare⟩
    · rintro ⟨rfl, ⟨code, message, rfl, same⟩ | rfl | rfl⟩
      · exact if_pos same
      · rfl
      · rfl
  secretNotFound id := by
    constructor
    · intro failed
      cases origin_of_error failed with
      | noSecret absence => exact ⟨⟨_, rfl⟩, absence⟩
    · rintro ⟨⟨field, rfl⟩, code, message, rfl, same⟩
      exact if_pos same
  noStringValue id := by
    constructor
    · intro failed
      cases origin_of_error failed with
      | bareSecret bare => exact ⟨⟨_, rfl⟩, bare⟩
    · rintro ⟨⟨field, rfl⟩, rfl | rfl⟩ <;> rfl
  transport := by
    constructor
    · rintro ⟨text, failed⟩
      cases origin_of_error failed with
      | failure failure => exact failure
    · exact fun failure => ⟨_, ofAnswer_of_isFailure failure⟩
  cause := by
    rintro cause rfl
    exact ⟨_, rfl, shows.chain _ _ _ (shows.connection _ cause)⟩
  declared code message text := by
    rintro rfl failed declared
    rw [text_of_transport failed]
    refine List.IsInfix.trans ?_ (shows.chain _ _ _ (shows.declared _ code message declared))
    rw [String.toList_append]
    exact (List.suffix_append _ _).isInfix
  undeclared code message text := by
    rintro rfl failed undeclared
    rw [text_of_transport failed]
    have shown : (Text.quote message).toList <:+: _ := quote_infix_failureText shows undeclared
    exact ⟨shown, fun plain => (Text.infix_quote_of_showsItself plain).trans shown⟩
  invalidJson id reason failed := by
    cases origin_of_error failed with
    | @unreadable _ text key => exact ⟨text, key, rfl, rfl⟩
  keyNotFound key id failed := by
    cases origin_of_error failed with
    | @noField _ text => exact ⟨text, rfl, rfl⟩

/-! ## Requests -/

namespace Client.Sends

variable {transient : Request → Answer → Prop}

private theorem exists_resent (sends : client.Sends transient) (request : Request)
    (answers : Nat → Answer) :
    ∃ resent, client.deliver request answers =
        { sendings := resent + 1, answer := answers resent } ∧
      ∀ i < resent, transient request (answers i) := by
  obtain ⟨resent, delivered⟩ := sends.last request answers
  refine ⟨resent, delivered, fun i earlier => sends.again request answers i ?_⟩
  rw [delivered]
  exact Nat.succ_lt_succ earlier

/-- A first answer that is no transient failure is the only one. -/
theorem deliver_of_settled (sends : client.Sends transient) {request : Request}
    {answers : Nat → Answer} (settled : ¬ transient request (answers 0)) :
    client.deliver request answers = { sendings := 1, answer := answers 0 } := by
  obtain ⟨resent, delivered, again⟩ := sends.exists_resent request answers
  cases resent with
  | zero => exact delivered
  | succ resent => exact absurd (again 0 resent.succ_pos) settled

end Client.Sends

/-- A lookup, once its request was delivered. -/
theorem lookup_of_delivered {service : Service} {call : Call} {delivery : Delivery}
    (delivered : client.deliver (request call) (service (request call)) = delivery) :
    lookup client service call =
      { requests := List.replicate delivery.sendings (request call)
        event := announcement call
        result := ofAnswer client call delivery.answer } := by
  rw [← delivered]
  rfl

/-- A lookup makes one request, which carries its name or identifier as it is. The request is sent
once, unless the first answer is a transient failure; sent again or not, only transient failures
come before the answer that counts, and what that one says is what the lookup reports. -/
theorem lookup_exact {transient : Request → Answer → Prop}
    {causes : Request → Answer → List String} (sends : client.Sends transient)
    (shows : client.Shows causes) (service : Service) (call : Call) :
    let answers := service (request call)
    let done := lookup client service call
    (request call = match call with
      | .parameter name => .getParameter name true
      | .secret id _ => .getSecretValue id) ∧
    (¬ transient (request call) (answers 0) →
      done.requests = [request call] ∧ Reports call (answers 0) done.result) ∧
    ∃ resent, done.requests = List.replicate (resent + 1) (request call) ∧
      (∀ i < resent, transient (request call) (answers i) ∧
        (answers i).IsFailure (request call).absenceError) ∧
      Reports call (answers resent) done.result := by
  intro answers done
  refine ⟨by cases call <;> rfl, fun settled => ?_, ?_⟩
  · have looked : done = _ := lookup_of_delivered (sends.deliver_of_settled settled)
    rw [looked]
    exact ⟨rfl, reports_ofAnswer shows call _⟩
  · obtain ⟨resent, delivered, again⟩ := sends.exists_resent (request call) answers
    have looked : done = _ := lookup_of_delivered delivered
    rw [looked]
    exact ⟨resent, rfl, fun i earlier => ⟨again i earlier, sends.failure _ _ (again i earlier)⟩,
      reports_ofAnswer shows call _⟩

/-- A service that is busy at first, and one that refuses. -/
theorem lookup_exact_busy :
    let service : Service
      | .getParameter .., 0 => .serviceError "ThrottlingException" (some "slow down")
      | .getParameter .., _ => .value "v"
      | .getSecretValue _, _ => .serviceError "AccessDeniedException" (some "not yours")
    let client := Library.client 2
    (∃ resent, (lookup client service (.parameter "/a")).requests =
        List.replicate (resent + 1) (.getParameter "/a" true) ∧
      Reports (.parameter "/a") (service (.getParameter "/a" true) resent)
        (lookup client service (.parameter "/a")).result) ∧
    (lookup client service (.parameter "/a")).result = .ok "v" ∧
    (lookup client service (.secret "b" none)).requests = [.getSecretValue "b"] ∧
    ∃ text, (lookup client service (.secret "b" none)).result = .error (.transport text) ∧
      "not yours".toList <:+: text.toList := by
  intro service client
  have sends := Library.sends_client 2
  have shows := Library.shows_client 2
  obtain ⟨_, _, resent, sent, _, reports⟩ := lookup_exact sends shows service (.parameter "/a")
  obtain ⟨_, settled, _⟩ := lookup_exact sends shows service (.secret "b" none)
  obtain ⟨once, refused⟩ := settled (by decide)
  exact ⟨⟨resent, sent, reports⟩, rfl, once, _, rfl,
    (refused.undeclared _ _ _ rfl rfl (by decide)).2 (Text.showsItself_of_all (by decide))⟩

/-- A request may be sent more than once, and the message of an error that the service does not
declare may be escaped in the text of the failure. -/
theorem lookup_resends_and_escapes :
    let client := Library.client 2
    (client.Sends (fun _ answer => Library.isTransient answer = true) ∧
      client.Shows Library.causes) ∧
    (lookup client (fun _ _ => .serviceError "ThrottlingException" none)
      (.parameter "/a")).requests = List.replicate 3 (.getParameter "/a" true) ∧
    ∃ text, (lookup client (fun _ _ => .serviceError "AccessDeniedException" (some "say \"no\""))
        (.parameter "/a")).result = .error (.transport text) ∧
      ¬ "say \"no\"".toList <:+: text.toList := by
  have type : Text.quote "AccessDeniedException" = "\"AccessDeniedException\"" := by
    rw [← String.toList_inj, Text.toList_quote_of_showsItself (Text.showsItself_of_all (by decide))]
    rfl
  have message : Text.quote "say \"no\"" = "\"say \\\"no\\\"\"" := by
    have quoteMark : Text.quoteChar '\"' = ['\\', '\"'] := rfl
    rw [← String.toList_inj, Text.quote]
    simp [Text.quoteChar_of_isPlain, Text.isPlain, quoteMark]
  have bare : errorType "AccessDeniedException" = "AccessDeniedException" := by decide
  refine ⟨⟨Library.sends_client 2, Library.shows_client 2⟩, by decide, _, rfl, ?_⟩
  rw [← Text.occursIn_eq_true_iff]
  simp only [Library.client, Library.causes, Library.recordText, bare, type, message]
  decide +kernel

end Aws

end Splice
