import TypedCatalog.Service.Client

/-! Outcomes of `Client.request` by status and body. Every status outside 400 to 599 counts as an
answer, also those that are no success. -/
namespace TypedCatalog

namespace Response

variable {response : Response}

/-- Status 200 to 299. -/
def IsSuccess (response : Response) : Prop := 200 ≤ response.status ∧ response.status < 300

/-- Status 400 to 599. -/
def IsRefusal (response : Response) : Prop := 400 ≤ response.status ∧ response.status < 600

instance (response : Response) : Decidable response.IsSuccess := inferInstanceAs (Decidable (_ ∧ _))

theorem isAnswer_eq_false_iff : response.isAnswer = false ↔ response.IsRefusal := by
  simp [isAnswer, IsRefusal]

/-- The value that the body decodes to, or null. -/
inductive Tells (response : Response) : Value → Prop where
  | value {value : Value} : Json.read response.body = .ok value → Tells response value
  | nothing : (∀ value, Json.read response.body ≠ .ok value) → Tells response .null

/-- A success is a result, and everything else a fault with the status and the body. -/
structure KeepsResults (response : Response) (outcome : Except Fault Value) : Prop where
  result : ∀ value, outcome = .ok value → response.IsSuccess
  fault : ¬response.IsSuccess → ∃ fault : ServiceFault, outcome = .error (.service fault) ∧
    fault.code = "HTTP_ERROR" ∧ fault.status? = some response.status ∧ response.Tells fault.details

end Response

/-- The reply that a service gives next. -/
def Service.nextReply (service : Service) : Reply := service.replies.headD (.response {})

namespace Client

variable {client : Client} {method url : Text} {endpoint data params headers carried : Value}
  {service : Service} {response : Response} {outcome : Except Fault Value}

/-- The outcome of a request that receives this reply. -/
def resultIn (url : Text) : Reply → Except Fault Value
  | .failure reason => .error (.service (.network url reason))
  | .response response => resultOf url response

/-- `request` sends once and returns `resultIn` of the next reply. -/
theorem send_headed (headed : headersOf headers = .ok carried) (service : Service) :
    ∃ after, client.send method url data headers service =
        (resultIn url service.nextReply, after) ∧
      after.events = service.events ++ [.asked ⟨method, url, data, carried, client.timeout⟩] := by
  let request : Request := ⟨method, url, data, carried, client.timeout⟩
  have replied : ((service.note (.asking method url)).ask request).1 = service.nextReply := rfl
  have events : ((service.note (.asking method url)).ask request).2.events =
      service.events ++ [.asked request] := rfl
  simp only [send, headed]
  generalize (service.note (.asking method url)).ask request = answer at replied events ⊢
  obtain ⟨reply, after⟩ := answer
  subst replied
  -- beside the result, only what the service notes depends on the reply
  cases service.nextReply with
  | failure reason => exact ⟨_, rfl, events⟩
  | response response =>
    refine ⟨_, rfl, ?_⟩
    split
    · exact events
    · exact events

theorem fst_send (headed : headersOf headers = .ok carried) (service : Service) :
    (client.send method url data headers service).1 = resultIn url service.nextReply := by
  obtain ⟨after, sent, -⟩ := send_headed headed service
  rw [sent]

theorem events_send (headed : headersOf headers = .ok carried) (service : Service) :
    (client.send method url data headers service).2.events =
      service.events ++ [.asked ⟨method, url, data, carried, client.timeout⟩] := by
  obtain ⟨after, sent, events⟩ := send_headed headed service
  rw [sent, events]

/-- The outcome of an answered request: empty, decoded, unreadable, or refused. -/
inductive Ends (url : Text) (response : Response) : Except Fault Value → Prop where
  | refused {details : Value} : response.IsRefusal → response.Tells details →
      Ends url response (.error (.service (.status response.status response.reason details)))
  | empty : ¬response.IsRefusal → response.body = [] → Ends url response (.ok .null)
  | value {value : Value} : ¬response.IsRefusal → response.body ≠ [] →
      Json.read response.body = .ok value → Ends url response (.ok value)
  | unreadable : ¬response.IsRefusal → response.body ≠ [] →
      (∀ value, Json.read response.body ≠ .ok value) →
      Ends url response (.error (.service (.notJson url response.status)))

theorem ends_resultOf (url : Text) (response : Response) :
    Ends url response (resultOf url response) := by
  unfold resultOf
  cases answer : response.isAnswer with
  | true =>
    have answer : ¬response.IsRefusal := by
      rw [← Response.isAnswer_eq_false_iff, answer]
      decide
    rw [if_pos rfl]
    split
    · exact .empty answer ‹_›
    · rename_i nonempty
      cases held : Json.read response.body with
      | ok value => exact .value answer nonempty held
      | error stop => exact .unreadable answer nonempty fun value found => by simp [held] at found
  | false =>
    have refusal := Response.isAnswer_eq_false_iff.mp answer
    rw [if_neg Bool.false_ne_true]
    cases held : Json.read response.body with
    | ok value => exact .refused refusal (.value held)
    | error stop => exact .refused refusal (.nothing fun value found => by simp [held] at found)

/-- `KeepsResults` holds if and only if the status is a success or a refusal. -/
theorem Ends.keepsResults_iff (ends : Ends url response outcome) :
    response.KeepsResults outcome ↔ response.IsSuccess ∨ response.IsRefusal := by
  constructor
  · intro kept
    by_cases success : response.IsSuccess
    · exact .inl success
    · obtain ⟨fault, failed, code, -⟩ := kept.fault success
      cases ends with
      | refused refusal _ => exact .inr refusal
      | empty _ _ => cases failed
      | value _ _ _ => cases failed
      | unreadable _ _ _ =>
        cases failed
        have different : "INVALID_RESPONSE".toList ≠ "HTTP_ERROR".toList := by decide
        exact absurd code different
  · rintro (success | refusal)
    · exact ⟨fun _ _ => success, fun other => absurd success other⟩
    · cases ends with
      | refused _ tells =>
        constructor
        · intro value same
          cases same
        · intro _
          exact ⟨_, rfl, rfl, rfl, tells⟩
      | empty answer _ => exact absurd refusal answer
      | value answer _ _ => exact absurd refusal answer
      | unreadable answer _ _ => exact absurd refusal answer

/-- `Ends` determines the outcome of every answered request by status and body. The outcome
`KeepsResults` if and only if the status is a success or a refusal. -/
theorem request_results_iff (method : Text) (data : Value)
    (addressed : client.urlOf endpoint params = .ok url)
    (headed : headersOf headers = .ok carried)
    (replied : service.nextReply = .response response) :
    let outcome := (client.request method endpoint data params headers service).1
    Ends url response outcome ∧
      (response.KeepsResults outcome ↔ response.IsSuccess ∨ response.IsRefusal) := by
  intro outcome
  have ends : Ends url response outcome := by
    have sent : outcome = resultIn url service.nextReply := by
      simp only [outcome, request, addressed, fst_send headed]
    rw [sent, replied]
    exact ends_resultOf url response
  exact ⟨ends, ends.keepsResults_iff⟩

def sampleClient : Client := .ofUrl "http://h/"

def missing : Response := { status := 404, reason := some "Not Found", body := "\x7b\x7d" }

theorem request_results_missing :
    sampleClient.urlOf (.ofText "/x") .null = .ok "http://h/x" ∧ headersOf .null = .ok .null ∧
      missing.KeepsResults (sampleClient.request "GET" (.ofText "/x") .null .null .null
        { replies := [.response missing] }).1 := by
  have addressed : sampleClient.urlOf (.ofText "/x") .null = .ok "http://h/x" := rfl
  have headed : headersOf .null = .ok .null := rfl
  let service : Service := { replies := [.response missing] }
  have replied : service.nextReply = .response missing := rfl
  obtain ⟨-, kept⟩ := request_results_iff "GET" .null addressed headed replied
  exact ⟨addressed, headed, kept.mpr (.inr ⟨by decide, by decide⟩)⟩

/-- Status 304 with an empty body. -/
def unmodified : Response := { status := 304, reason := some "Not Modified" }

theorem unmodified_result :
    let outcome := (sampleClient.request "GET" (.ofText "/x") .null .null .null
      { replies := [.response unmodified] }).1
    outcome = .ok .null ∧ ¬unmodified.IsSuccess ∧ ¬unmodified.KeepsResults outcome := by
  have other : ¬unmodified.IsSuccess := by decide
  refine ⟨rfl, other, fun kept => other (kept.result .null rfl)⟩

end Client
end TypedCatalog
