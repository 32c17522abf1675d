import TypedCatalog.Proofs.Catalog.Faults
import TypedCatalog.Proofs.Service.Results
import TypedCatalog.Proofs.Value.Faults
import TypedCatalog.Service.Directory

/-! The faults of an exchange: of the service, of a value, or, where schemas are read, of a record.
-/
namespace TypedCatalog

open Catalog
open Value (FailsAsValue)

theorem Host.fails_checkBracketed (text : Text) : FailsAsValue (checkBracketed text) :=
  .ite (.ite (.ok ()) (.error (.content .laterHost))) <|
    .ite (.error (.content .fourPartHost)) <| .ite (.ok ()) <| .error (.content _)

theorem Host.fails_check (host : Text) : FailsAsValue (check host) := by
  have disguised : FailsAsValue (
      if host.any isDisguise then throw (Fault.content (.disguisedHost host)) else pure ()) :=
    .ite (.error (.content _)) (.ok ())
  unfold check
  refine FailsOnly.check (.error (.content .openHost)) ?_
  cases Text.cut? '[' host with
  | none => exact disguised
  | some found => exact (fails_checkBracketed _).bind fun _ _ => disguised

namespace Url

theorem fails_parse (scheme text : Text) : FailsAsValue (parse scheme text) := by
  unfold parse
  dsimp only
  split
  · rename_i fault failed
    exact .error ((Host.fails_check _).allows failed)
  · exact .ok _

theorem fails_join (base relative : Text) : FailsAsValue (join base relative) := by
  unfold join
  refine .ite (.ok _) <| .ite (.ok _) ?_
  split
  · rename_i fault failed
    exact .error ((fails_parse _ _).allows failed)
  · split
    · rename_i fault failed
      exact .error ((fails_parse _ _).allows failed)
    · exact .ite (.ok _) <| .ite (.ok _) <| .ite (.ok _) (.ok _)

end Url

namespace Query

theorem fails_valueText (value : Value) : FailsAsValue (valueText value) := by
  unfold valueText
  split
  · exact .ok _
  · exact .ok _
  · exact Value.fails_text _

theorem fails_ofParams (params : Value.Entries) : FailsAsValue (ofParams params) := by
  induction params with
  | nil => exact .ok []
  | cons param params ih =>
    exact .ite ih <| (fails_valueText _).bind fun _ _ => (Value.fails_text _).bind fun _ _ =>
      ih.bind fun _ _ => .ok _

end Query

/-- A fault of the service, or of a value that was sent or received. -/
inductive Fault.IsOfExchange : Fault → Prop where
  | service (fault : ServiceFault) : IsOfExchange (.service fault)
  | value {fault : Fault} : fault.IsOfValue → IsOfExchange fault

namespace Client

theorem fails_urlFor (client : Client) (endpoint : Text) (params : Value.Entries) :
    FailsAsValue (client.urlFor endpoint params) :=
  (Url.fails_join _ _).bind fun _ _ => (Query.fails_ofParams params).bind fun _ _ => .ok _

theorem fails_resultOf (url : Text) (response : Response) :
    FailsOnly Fault.IsOfExchange (resultOf url response) := by
  have ends := ends_resultOf url response
  generalize resultOf url response = outcome at ends
  cases ends with
  | refused _ _ => exact .error (.service _)
  | empty _ _ => exact .ok _
  | value _ _ _ => exact .ok _
  | unreadable _ _ _ => exact .error (.service _)

theorem fails_get (client : Client) (endpoint : Text) (params : Value.Entries) :
    ActionFailsOnly Fault.IsOfExchange (client.get endpoint params) := by
  intro service
  unfold get call
  split
  · rename_i fault failed
    exact .error (.value ((fails_urlFor _ _ _).allows failed))
  · rw [fst_send rfl]
    cases service.nextReply with
    | failure reason => exact .error (.service _)
    | response response => exact fails_resultOf _ _

end Client

namespace Directory

theorem fails_records {α : Type} {allowed : Fault → Prop} {read : Value → Except Fault α}
    (unsupported : allowed (.misuse .unsupported)) (each : ∀ data, FailsOnly allowed (read data))
    (reply : Value) : FailsOnly allowed (records read reply) := by
  refine .ite ?_ (.ok [])
  cases members : membersOf reply with
  | error fault =>
    obtain rfl := members_error members
    exact .error unsupported
  | ok members => exact .mapM fun data _ => each data

/-- `Directory.schemas` raises faults of an exchange or of a record. -/
theorem fails_schemas (client : Client) :
    ActionFailsOnly (fun fault => fault.IsOfExchange ∨ ∃ record, fault = .record record)
      (schemas client) := by
  refine ((Client.fails_get _ _ _).mono fun _ => .inl).bind fun reply => .lift ?_
  refine fails_records (.inl (.value (.misuse _))) (fun data => ?_) reply
  refine (Schema.reports_read data).failsOnly fun fault member => ?_
  cases AreOfDocument.schema data fault member with
  | record problem => exact .inr ⟨problem, rfl⟩
  | unsupported => exact .inl (.value (.misuse _))
  | noMember => exact .inl (.value (.misuse _))
  | unwritable => exact .inl (.value (.content _))

end Directory

theorem Catalog.Health.fails_read (data : Value) : FailsAsValue (Health.read data) := by
  refine (Value.fails_entries data).bind fun entries _ => ?_
  refine (Value.fails_text _).bind fun status _ => ?_
  refine (Value.fails_text _).bind fun timestamp _ => ?_
  refine (Value.fails_text _).bind fun version _ => ?_
  dsimp only
  split
  · exact .ok _
  · exact .ite ((Value.fails_toBinary64 _).bind fun _ _ => .ok _) (.ok _)

/-- A count under one of several spellings. -/
theorem Catalog.CacheStatus.fails_count (data : Value) (spellings : List Text) :
    FailsAsValue (do
      match ← data.pick spellings with
      | none => pure 0
      | some value => value.toInteger) := by
  refine (Value.fails_pick data spellings).bind fun found _ => ?_
  cases found with
  | none => exact .ok 0
  | some value => exact Value.fails_toInteger value

theorem Catalog.CacheStatus.fails_read (data : Value) : FailsAsValue (CacheStatus.read data) := by
  have count := fails_count data
  exact (Value.fails_pick _ _).bind fun _ _ => (Value.fails_text _).bind fun _ _ =>
    (count _).bind fun _ _ => (count _).bind fun _ _ => (count _).bind fun _ _ =>
    (count _).bind fun _ _ => (count _).bind fun _ _ => (count _).bind fun _ _ =>
    (count _).bind fun _ _ => .ok _

namespace Directory

theorem fails_health (client : Client) :
    ActionFailsOnly Fault.IsOfExchange (health client) :=
  (Client.fails_get _ _ _).bind fun _ => .lift ((Health.fails_read _).mono fun _ => .value)

theorem fails_cacheStatus (client : Client) :
    ActionFailsOnly Fault.IsOfExchange (cacheStatus client) :=
  (Client.fails_get _ _ _).bind fun _ => .lift ((CacheStatus.fails_read _).mono fun _ => .value)

end Directory
end TypedCatalog
