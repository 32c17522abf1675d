import TypedCatalog.Proofs.Catalog.Record
import TypedCatalog.Proofs.Json.Documents
import TypedCatalog.Proofs.Service.Results
import TypedCatalog.Service.Directory

/-! Results of a service are documents, and the schemas that a service has are records. -/
namespace TypedCatalog

open Catalog
open Json (IsDocument)

variable {service after : Service}

namespace Client

variable {client : Client} {method endpoint url : Text} {data headers : Value}
  {params : Value.Entries} {value : Value}

theorem isDocument_resultOf {response : Response} (result : resultOf url response = .ok value) :
    IsDocument value := by
  have ends := ends_resultOf url response
  rw [result] at ends
  cases ends with
  | empty _ _ => exact .null
  | value _ _ read => exact Json.isDocument_read read

theorem isDocument_send (sent : client.send method url data headers service = (.ok value, after)) :
    IsDocument value := by
  cases headed : headersOf headers with
  | error fault =>
    simp only [send, headed] at sent
    cases sent
  | ok carried =>
    have result : (client.send method url data headers service).1 = _ := fst_send headed service
    rw [sent] at result
    cases reply : service.nextReply with
    | failure reason =>
      rw [reply] at result
      cases result
    | response response =>
      rw [reply] at result
      exact isDocument_resultOf result.symm

theorem isDocument_call
    (called : client.call method endpoint data params service = (.ok value, after)) :
    IsDocument value := by
  unfold call at called
  split at called
  · cases called
  · exact isDocument_send called

end Client

namespace Directory

theorem isRecord_schemas {client : Client} {fetched : List Schema}
    (answered : schemas client service = (.ok fetched, after)) :
    ∀ schema ∈ fetched, schema.IsRecord := by
  unfold schemas list at answered
  obtain ⟨reply, middle, called, answered⟩ := action_ok answered
  have document := Client.isDocument_call called
  have listed : records Schema.read reply = .ok fetched := congrArg Prod.fst answered
  unfold records at listed
  split at listed
  · obtain ⟨members, found, done⟩ := bind_ok listed
    exact mapM_holds (membersOf_documents document found) (fun _ _ => Schema.isRecord_read) done
  · cases listed
    intro schema member
    cases member

end Directory
end TypedCatalog
