import TypedCatalog.Proofs.Fault
import TypedCatalog.Proofs.Service.Below
import TypedCatalog.Proofs.Service.Results
import TypedCatalog.Service.Session

/-! The addresses of the requests of a session. Names enter references unescaped, so that a scheme,
a host or dots in them lead away from the base; `StaysBelow` is the exact condition. -/
namespace TypedCatalog

section Asking

variable {α β : Type} {client : Client} {endpoint : Text}

/-- The exchange leaves the service unchanged. -/
def Quiet (exchange : Exchange α) : Prop := ∀ service, (exchange service).2 = service

/-- Every request of the exchange goes to this endpoint of the client. -/
def Asks (client : Client) (endpoint : Text) (exchange : Exchange α) : Prop :=
  ∀ service, ∃ sent : List Request,
    (exchange service).2.events = service.events ++ sent.map Event.asked ∧
      ∀ request ∈ sent, ∃ params, client.urlFor endpoint params = .ok request.url

theorem quiet_pure (value : α) : Quiet (pure value : Exchange α) := fun _ => rfl

theorem quiet_throw (fault : Fault) : Quiet (throw fault : Exchange α) := fun _ => rfl

theorem quiet_lift (outcome : Except Fault α) : Quiet (liftM outcome : Exchange α) := fun _ => rfl

theorem quiet_bind {first : Exchange α} {next : α → Exchange β} (quiet : Quiet first)
    (others : ∀ value, Quiet (next value)) : Quiet (first >>= next) := by
  intro service
  change (ExceptT.bindCont next (first service).1 (first service).2).2 = service
  rw [quiet service]
  cases (first service).1 with
  | ok value => exact others value service
  | error fault => rfl

theorem Quiet.asks {exchange : Exchange α} (quiet : Quiet exchange) :
    Asks client endpoint exchange := by
  intro service
  refine ⟨[], ?_, List.forall_mem_nil _⟩
  rw [quiet service, List.map_nil, List.append_nil]

/-- A quiet continuation preserves the events. -/
theorem events_bind {first : Exchange α} {next : α → Exchange β}
    (quiet : ∀ value, Quiet (next value)) (service : Service) :
    ((first >>= next) service).2.events = (first service).2.events := by
  change (ExceptT.bindCont next (first service).1 (first service).2).2.events = _
  cases (first service).1 with
  | ok value => exact congrArg Service.events (quiet value _)
  | error fault => rfl

theorem Asks.bind {first : Exchange α} {next : α → Exchange β} (asks : Asks client endpoint first)
    (quiet : ∀ value, Quiet (next value)) : Asks client endpoint (first >>= next) := by
  intro service
  obtain ⟨sent, events, addressed⟩ := asks service
  exact ⟨sent, (events_bind quiet service).trans events, addressed⟩

theorem Asks.after {first : Exchange α} {next : α → Exchange β} (quiet : Quiet first)
    (asks : ∀ value, Asks client endpoint (next value)) :
    Asks client endpoint (first >>= next) := by
  intro service
  change ∃ sent : List Request,
    (ExceptT.bindCont next (first service).1 (first service).2).2.events = _ ∧ _
  rw [quiet service]
  cases (first service).1 with
  | ok value => exact asks value service
  | error fault => exact (quiet_throw fault).asks service

theorem asks_call (client : Client) (method endpoint : Text) (data : Value)
    (params : Value.Entries) : Asks client endpoint (client.call method endpoint data params) := by
  intro service
  unfold Client.call
  split
  · rename_i fault _
    exact (quiet_throw fault).asks service
  · rename_i url addressed
    refine ⟨[⟨method, url, data, .null, client.timeout⟩], Client.events_send rfl service, ?_⟩
    intro request member
    cases List.mem_singleton.mp member
    exact ⟨params, addressed⟩

end Asking

namespace Session

/-- The calls of a session that name a schema, a table or a routine. -/
inductive Call : Type 1 where
  | findAll (schema table : Text) (filter : Filter)
  | findOne (schema table : Text) (id : Value)
  | create (schema table : Text) (data : Value)
  | update (schema table : Text) (id data : Value)
  | delete (schema table : Text) (id : Value)
  | count (schema table : Text) (filter : Filter)
  | listing {α : Type} (schema kind : Text) (read : Value → Except Fault α)
  | function (schema name : Text) (arguments : Value)
  | procedure (schema name : Text) (arguments : Value)

namespace Call

def run (session : Session) : Call → Exchange Unit
  | findAll schema table filter => do let _ ← (session.rows schema table).findAll filter
  | findOne schema table id => do let _ ← (session.rows schema table).findOne id
  | create schema table data => do let _ ← (session.rows schema table).create data
  | update schema table id data => do let _ ← (session.rows schema table).update id data
  | delete schema table id => (session.rows schema table).delete id
  | count schema table filter => do let _ ← (session.rows schema table).count filter
  | listing schema kind read => do let _ ← Directory.ofKind session.client schema kind read
  | function schema name arguments => do let _ ← session.executeFunction schema name arguments
  | procedure schema name arguments => do let _ ← session.executeProcedure schema name arguments

/-- The endpoint of a call, with names unescaped. -/
def endpoint : Call → Text
  | findAll schema table _ | findOne schema table _ | create schema table _
  | update schema table _ _ | delete schema table _ => '/' :: schema ++ '/' :: table
  | count schema table _ => '/' :: schema ++ '/' :: table ++ "/count"
  | listing schema kind _ => "/dt/" ++ schema ++ '/' :: kind
  | function schema name _ => '/' :: schema ++ '/' :: "fn" ++ '/' :: name
  | procedure schema name _ => '/' :: schema ++ '/' :: "proc" ++ '/' :: name

theorem asks_findAll (rows : Rows) (filter : Filter) :
    Asks rows.client rows.path (rows.findAll filter) :=
  .after (quiet_lift _) fun _ => (asks_call _ _ _ _ _).bind fun _ => quiet_pure _

theorem asks_run (session : Session) (call : Call) :
    Asks session.client call.endpoint (call.run session) := by
  have void {α : Type} {endpoint : Text} {exchange : Exchange α}
      (asks : Asks session.client endpoint exchange) :
      Asks session.client endpoint (do let _ ← exchange) := asks.bind fun _ => quiet_pure ()
  cases call with
  | findAll schema table filter => exact void (asks_findAll (session.rows schema table) filter)
  | findOne schema table id =>
    refine void (.after (quiet_lift _) fun id =>
      (asks_findAll (session.rows schema table) _).bind fun found => ?_)
    split
    · exact quiet_lift _
    · exact quiet_throw _
  | create schema table data => exact void (.after (quiet_lift _) fun _ => asks_call _ _ _ _ _)
  | update schema table id data =>
    refine void (.after (quiet_lift _) fun entries => .after (quiet_lift _) fun id =>
      (asks_call _ _ _ _ _).bind fun reply => ?_)
    refine quiet_bind (quiet_lift _) fun entries => ?_
    dsimp only
    split
    · exact quiet_lift _
    · exact quiet_throw _
  | delete schema table id =>
    exact .after (quiet_lift _) fun id => void (asks_call _ _ _ _ _)
  | count schema table filter =>
    refine void (.after (quiet_lift _) fun params => (asks_call _ _ _ _ _).bind fun reply => ?_)
    exact quiet_bind (quiet_lift _) fun entries => quiet_lift _
  | listing schema kind read => exact void ((asks_call _ _ _ _ _).bind fun _ => quiet_lift _)
  | function schema name arguments =>
    exact void (.after (quiet_lift _) fun _ => asks_call _ _ _ _ _)
  | procedure schema name arguments =>
    exact void (.after (quiet_lift _) fun _ => asks_call _ _ _ _ _)

/-- The endpoint of the call `LeadsBelow` the base. -/
def StaysBelow (base : Url.Base) (call : Call) : Prop :=
  ∃ url, Url.parse base.scheme (call.endpoint.dropWhile (· = '/')) = .ok url ∧
    Url.LeadsBelow base url

/-- Characters of module names and slashes are visible. -/
theorem visible_of_name {c : Char} (inside : c = '/' ∨ Name.isModuleChar c = true) :
    0x20 < c.toNat := by
  have low : ∀ n ≤ 0x20, ¬(Char.ofNat n = '/' ∨ Name.isModuleChar (Char.ofNat n) = true) := by
    decide
  apply Nat.lt_of_not_le
  intro small
  refine low c.toNat small ?_
  rwa [Char.ofNat_toNat]

/-- Names of `[A-Za-z0-9_-]` stay below every plain base. -/
theorem staysBelow_of_names {base : Url.Base} (plain : base.IsPlain) {call : Call}
    (names : ∀ c ∈ call.endpoint, c = '/' ∨ Name.isModuleChar c = true) : call.StaysBelow base := by
  have inside : ∀ c ∈ call.endpoint.dropWhile (· = '/'), c = '/' ∨ Name.isModuleChar c = true :=
    fun c member => names c ((List.dropWhile_sublist _).subset member)
  have relative : (call.endpoint.dropWhile (· = '/')).head? ≠ some '/' := by
    intro slash
    have stops := List.head?_dropWhile_not (· = '/') call.endpoint
    rw [slash] at stops
    cases stops
  unfold StaysBelow
  generalize call.endpoint.dropWhile (· = '/') = reference at inside relative
  have absent (mark : Char) (slash : mark ≠ '/') (other : Name.isModuleChar mark = false) :
      mark ∉ reference := by
    intro member
    rcases inside mark member with same | holds
    · exact slash same
    · rw [holds] at other
      cases other
  have parsed := Url.parse_path plain.schemes.2.2
    (fun c member => visible_of_name (inside c member)) relative
    (absent ':' (by decide) (by decide)) (absent '#' (by decide) (by decide))
    (absent '?' (by decide) (by decide)) (absent ';' (by decide) (by decide))
  refine ⟨_, parsed, ?_⟩
  apply plain.leadsBelow_names rfl rfl relative
  intro name member
  have free : '.' ∉ name := fun dot =>
    absent '.' (by decide) (by decide) (Text.mem_of_mem_splitOn member dot)
  constructor
  · rintro rfl
    exact free List.mem_cons_self
  · rintro rfl
    exact free List.mem_cons_self

theorem urlFor_iff {base : Url.Base} (plain : base.IsPlain) {client : Client}
    (named : client.baseUrl = base.text) {endpoint address : Text} {params : Value.Entries}
    (addressed : client.urlFor endpoint params = .ok address) :
    base.text <+: address ↔
      ∃ url, Url.parse base.scheme (endpoint.dropWhile (· = '/')) = .ok url ∧
        Url.LeadsBelow base url := by
  unfold Client.urlFor at addressed
  rw [named] at addressed
  obtain ⟨url, joined, addressed⟩ := bind_ok addressed
  obtain ⟨said, _, addressed⟩ := bind_ok addressed
  have queried := Except.ok.inj addressed
  rw [← plain.join_iff joined]
  split at queried
  · rw [← queried]
  · rw [← queried, prefix_mark (plain.not_mem_text '?' (by decide) (by decide))]

/-- Every request that a call sends has the base address as prefix if and only if the call
`StaysBelow` the base. -/
theorem run_below_iff {base : Url.Base} (plain : base.IsPlain) {session : Session}
    (named : session.client.baseUrl = base.text) (call : Call) (service : Service) :
    ∃ sent : List Request,
      (call.run session service).2.events = service.events ++ sent.map Event.asked ∧
      ∀ request ∈ sent, session.client.baseUrl <+: request.url ↔ call.StaysBelow base := by
  obtain ⟨sent, events, addressed⟩ := asks_run session call service
  refine ⟨sent, events, ?_⟩
  intro request member
  obtain ⟨params, addressed⟩ := addressed request member
  rw [named]
  exact urlFor_iff plain named addressed

def sampleSession : Session := { client := .ofUrl "http://h/api/" }

def sampleBase : Url.Base := ⟨"http", "h", ["api"]⟩

theorem run_below_iff_sample : sampleBase.IsPlain ∧ ∃ sent : List Request,
    ((findAll "public" "users" {}).run sampleSession {}).2.events = sent.map Event.asked ∧
      ∀ request ∈ sent, sampleSession.client.baseUrl <+: request.url := by
  have plain : sampleBase.IsPlain := by
    refine ⟨.inl rfl, by decide, List.all_eq_true.mp rfl, by decide, ?_⟩
    intro segment member
    cases List.mem_singleton.mp member
    exact List.all_eq_true.mp rfl
  have named : sampleSession.client.baseUrl = sampleBase.text := by decide
  obtain ⟨sent, events, below⟩ := run_below_iff plain named (findAll "public" "users" {}) {}
  refine ⟨plain, sent, events, ?_⟩
  intro request member
  have names : (findAll "public" "users" {}).endpoint.all
      (fun c => c = '/' || Name.isModuleChar c) = true := by decide
  exact (below request member).mpr
    (staysBelow_of_names plain (by simpa using List.all_eq_true.mp names))

/-- A schema name that is an absolute address. -/
def elsewhere : Call := .findAll "http://other" "users" {}

/-- The address of a request event. -/
def addressOf : Event → Option Text
  | .asked request => some request.url
  | .closed => none

/-- The request of `elsewhere` does not go to the base address. -/
theorem elsewhere_leaves : ∃ request,
    Event.asked request ∈ (elsewhere.run sampleSession {}).2.events ∧
      ¬ sampleSession.client.baseUrl <+: request.url := by
  have asked : (elsewhere.run sampleSession {}).2.events.map addressOf =
      [some "http://other/users".toList] := by decide +kernel
  obtain ⟨event, events, address⟩ := List.map_eq_singleton_iff.mp asked
  rw [events]
  cases event with
  | asked request =>
    refine ⟨request, List.mem_singleton.mpr rfl, ?_⟩
    rw [Option.some.inj address]
    decide
  | closed => cases address

end Call
end Session
end TypedCatalog
