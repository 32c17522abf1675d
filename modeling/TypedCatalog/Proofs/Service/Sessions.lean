import TypedCatalog.Proofs.Declaration.Parallel
import TypedCatalog.Proofs.File.Faults
import TypedCatalog.Proofs.Service.Client
import TypedCatalog.Proofs.Service.Requests

/-! State invariant of sessions: the catalog is that of the last successful load, and every schema
and object is held under its own name. -/
namespace TypedCatalog

open Catalog

namespace Catalog.Register

variable {α : Type} {name : α → Text} {holds : α → Prop} {register : Register α} {key : Text}
  {record : α}

/-- `get?` on a keyed register finds the record of the name. -/
theorem IsKeyed.get?_eq_some (keyed : register.IsKeyed name holds) :
    register.get? key = some record ↔ record ∈ register.records ∧ name record = key := by
  constructor
  · intro found
    obtain ⟨entry, first, rfl⟩ := Option.map_eq_some_iff.mp found
    have member := List.mem_of_find?_eq_some first
    have same : entry.1 = key := by simpa using List.find?_some first
    exact ⟨List.mem_map_of_mem member, (keyed.names entry member).symm.trans same⟩
  · rintro ⟨member, rfl⟩
    obtain ⟨entry, inside, rfl⟩ := List.mem_map.mp member
    have own := keyed.names entry inside
    have held : (register.find? fun other => other.1 == name entry.2).isSome = true :=
      List.find?_isSome.mpr ⟨entry, inside, by simp [own]⟩
    obtain ⟨other, first⟩ := Option.isSome_iff_exists.mp held
    have same : other.1 = name entry.2 := by simpa using List.find?_some first
    obtain rfl := List.inj_on_of_nodup_map keyed.distinct (List.mem_of_find?_eq_some first) inside
      (same.trans own.symm)
    rw [get?, first, Option.map_some]

theorem IsKeyed.nodup_names (keyed : register.IsKeyed name holds) :
    (register.records.map name).Nodup := by
  have same : register.records.map name = register.map Prod.fst := by
    rw [Register.records, List.map_map]
    exact List.map_congr_left fun entry member => (keyed.names entry member).symm
  rw [same]
  exact keyed.distinct

end Catalog.Register

/-- Generating declarations raises no fault of the service. -/
theorem Declaration.result_ne_service {render : Renderer} {writing : Writing}
    (possible : writing.IsPossible render) (mode : Mode) (directory : Path) (schemas : List Schema)
    (tree : FileTree) (fault : ServiceFault) :
    (generateBy writing mode directory schemas tree).result ≠ .error (.service fault) := by
  have other {cause : Fault} (isOfFile : cause.IsOfFile) : cause ≠ .service fault := by
    rintro rfl
    cases isOfFile
  have run := generated writing mode directory schemas tree
  generalize generateBy writing mode directory schemas tree = done at run ⊢
  intro failed
  cases run with
  | clash _ => cases failed
  | unmade _ made =>
    have allowed := FileTree.fails_makeDirectories directory directory.names.length tree
    rw [← FileTree.makeDirectory, made] at allowed
    exact other (allowed.allows rfl) (Except.error.inj failed)
  | @made files done clear made finished =>
    have ended := possible.ended mode directory schemas files
    cases finished with
    | module failure =>
      cases failed
      rcases ended.blamed _ failure with told | ⟨schema, -, cause, told⟩
      · cases told
      · cases told
    | index _ refused =>
      exact other ((FileTree.fails_writeText _ _ _).allows refused) (Except.error.inj failed)
    | all _ _ => cases failed

/-- `notInitialized` is raised if and only if no schema is loaded. -/
theorem Session.generateTypes_notInitialized_iff {session : Session} {directory : Path}
    {tree : FileTree} :
    (session.generateTypes directory tree).1 = .error (.service .notInitialized) ↔
      session.schemas = [] := by
  unfold generateTypes schemas Register.records
  rw [List.map_eq_nil_iff]
  cases session.catalog with
  | nil => exact ⟨fun _ => rfl, fun _ => rfl⟩
  | cons entry rest =>
    refine ⟨fun failed => ?_, fun empty => nomatch empty⟩
    have possible := Declaration.isPossible_writeModules Declaration.renderFully
    exact absurd failed (Declaration.result_ne_service possible (.parallel none) directory _ tree
      .notInitialized)

/-- The result of a bind with a lifted function depends on the first result only. -/
theorem fst_bind_lift {α β : Type} (exchange : Exchange α) (read : α → Except Fault β)
    (service : Service) :
    ((exchange >>= fun value => liftM (read value) : Exchange β) service).1 =
      ((exchange service).1 >>= read) := by
  let next : α → Exchange β := fun value => liftM (read value)
  change (ExceptT.bindCont next (exchange service).1 (exchange service).2).1 = _
  cases (exchange service).1 with
  | error fault => rfl
  | ok value => rfl

theorem Client.fst_get {client : Client} {endpoint url : Text}
    (reached : client.urlFor endpoint [] = .ok url) (service : Service) :
    (client.get endpoint [] service).1 = resultIn url service.nextReply := by
  simp only [get, call, reached]
  exact fst_send rfl service

theorem Client.resultIn_answer {url : Text} {response : Response} {value : Value}
    (answer : response.isAnswer = true) (held : Json.read response.body = .ok value) :
    resultIn url (.response response) = .ok value := by
  have nonempty : response.body ≠ [] := by
    intro empty
    rw [empty] at held
    cases held
  simp only [resultIn, resultOf, answer, if_true, if_neg nonempty, held]

namespace Directory

/-- The schemas in a reply to `/dt/schemas`. -/
def schemasIn (client : Client) (reply : Reply) : Except Fault (List Schema) := do
  let url ← client.urlFor "/dt/schemas" []
  records Schema.read (← Client.resultIn url reply)

theorem fst_schemas (client : Client) (service : Service) :
    (schemas client service).1 = schemasIn client service.nextReply := by
  unfold schemas list schemasIn
  rw [fst_bind_lift]
  unfold Client.get Client.call
  cases client.urlFor "/dt/schemas" [] with
  | error fault => rfl
  | ok url =>
    dsimp only
    rw [Client.fst_send rfl]
    rfl

end Directory

namespace Session

variable {client : Client} {session loaded : Session} {service : Service} {log : List Reply}

/-- The catalog that a load extracts from a reply. -/
def catalogIn (client : Client) (reply : Reply) : Option (Register Schema) :=
  (Directory.schemasIn client reply).toOption.map (Register.ofRecords (·.name))

theorem fst_load (session : Session) (service : Service) : (session.load service).1 =
    (Directory.schemasIn session.client service.nextReply).map fun schemas =>
      { session with catalog := .ofRecords (·.name) schemas } := by
  refine (fst_bind_lift (Directory.schemas session.client) (fun schemas => .ok
    { session with catalog := .ofRecords (·.name) schemas }) service).trans ?_
  rw [Directory.fst_schemas]
  cases Directory.schemasIn session.client service.nextReply with
  | error fault => rfl
  | ok schemas => rfl

theorem load_ok (done : (session.load service).1 = .ok loaded) :
    loaded.client = session.client ∧
      catalogIn session.client service.nextReply = some loaded.catalog ∧
      loaded.catalog.IsKeyed (·.name) Schema.IsRecord := by
  rw [fst_load] at done
  obtain ⟨schemas, read, rfl⟩ := map_ok done
  have answered : Directory.schemas session.client service = (.ok schemas, _) :=
    Prod.ext ((Directory.fst_schemas session.client service).trans read) rfl
  have records := Directory.isRecord_schemas answered
  refine ⟨rfl, ?_, Register.isKeyed_ofRecords records⟩
  rw [catalogIn, read]
  rfl

theorem load_error {fault : Fault} (failed : (session.load service).1 = .error fault) :
    catalogIn session.client service.nextReply = none := by
  rw [fst_load] at failed
  rw [catalogIn, map_error failed]
  rfl

/-- The session holds the catalog of the last reply of the log that has one. -/
structure IsLoaded (client : Client) (log : List Reply) (session : Session) : Prop where
  own : session.client = client
  catalog : session.catalog = (log.filterMap (catalogIn client)).getLast?.getD []
  keyed : session.catalog.IsKeyed (·.name) Schema.IsRecord

theorem isLoaded_new (client : Client) : IsLoaded client [] { client } := ⟨rfl, rfl, .nil⟩

/-- A look-up by two names finds exactly the records with these names. -/
theorem IsLoaded.inside {α : Type} {name : α → Text} {holds : α → Prop}
    {group : Schema → Register α} {schema key : Text} {found : α}
    (sound : session.IsLoaded client log)
    (keyed : ∀ held : Schema, held.IsRecord → (group held).IsKeyed name holds) :
    (session.schema? schema).bind (fun held => (group held).get? key) = some found ↔
      ∃ held ∈ session.schemas, held.name = schema ∧
        found ∈ (group held).records ∧ name found = key := by
  rw [Option.bind_eq_some_iff]
  constructor
  · rintro ⟨held, there, looked⟩
    obtain ⟨member, named⟩ := sound.keyed.get?_eq_some.mp there
    obtain ⟨entry, inside, rfl⟩ := List.mem_map.mp member
    have registered := keyed entry.2 (sound.keyed.records entry inside)
    exact ⟨entry.2, member, named, registered.get?_eq_some.mp looked⟩
  · rintro ⟨held, member, named, there⟩
    obtain ⟨entry, inside, rfl⟩ := List.mem_map.mp member
    have registered := keyed entry.2 (sound.keyed.records entry inside)
    exact ⟨entry.2, sound.keyed.get?_eq_some.mpr ⟨member, named⟩,
      registered.get?_eq_some.mpr there⟩

theorem IsLoaded.next (sound : session.IsLoaded client log)
    (done : (session.load service).1 = .ok loaded) :
    loaded.IsLoaded client (log ++ [service.nextReply]) := by
  obtain ⟨same, taken, keyed⟩ := load_ok done
  rw [sound.own] at same taken
  refine ⟨same, ?_, keyed⟩
  rw [List.filterMap_append, List.filterMap_cons_some taken, List.getLast?_append]
  rfl

theorem IsLoaded.keep (sound : session.IsLoaded client log) {fault : Fault}
    (failed : (session.load service).1 = .error fault) :
    session.IsLoaded client (log ++ [service.nextReply]) := by
  have unloaded := load_error failed
  rw [sound.own] at unloaded
  refine ⟨sound.own, ?_, sound.keyed⟩
  rw [List.filterMap_append, List.filterMap_cons_none unloaded, List.filterMap_nil, List.append_nil]
  exact sound.catalog

end Session

/-- A session with its service and files. -/
structure SessionRun where
  session : Session
  service : Service
  files : FileTree

namespace SessionRun

/-- The operations of a session. -/
inductive Action : Type 1 where
  | load
  | schemas
  | schema (name : Text)
  | table (schema name : Text)
  | function (schema name : Text)
  | generate (directory : Path)
  | call (call : Session.Call)
  | close

def start (client : Client) (service : Service) (files : FileTree) : SessionRun :=
  ⟨{ client }, service, files⟩

def step (run : SessionRun) : Action → SessionRun
  | .load =>
    match run.session.load run.service with
    | (.ok session, service) => { run with session, service }
    | (.error _, service) => { run with service }
  | .generate directory => { run with files := (run.session.generateTypes directory run.files).2 }
  | .call call => { run with service := (call.run run.session run.service).2 }
  | .close => { run with service := (Client.close run.service).2 }
  | .schemas | .schema _ | .table .. | .function .. => run

def steps (run : SessionRun) (actions : List Action) : SessionRun := actions.foldl step run

/-- The reply that an action loads from. -/
def answers (run : SessionRun) : Action → List Reply
  | .load => [run.service.nextReply]
  | _ => []

/-- The replies that a run loads from, in order. -/
def allAnswers (run : SessionRun) : List Action → List Reply
  | [] => []
  | action :: actions => run.answers action ++ (run.step action).allAnswers actions

variable {run : SessionRun} {client : Client} {log : List Reply} {action : Action}

theorem step_load_ok {loaded : Session} (done : (run.session.load run.service).1 = .ok loaded) :
    (run.step .load).session = loaded := by
  unfold step
  generalize run.session.load run.service = outcome at done ⊢
  obtain ⟨result, after⟩ := outcome
  subst done
  rfl

theorem step_load_error {fault : Fault}
    (failed : (run.session.load run.service).1 = .error fault) :
    (run.step .load).session = run.session := by
  unfold step
  generalize run.session.load run.service = outcome at failed ⊢
  obtain ⟨result, after⟩ := outcome
  subst failed
  rfl

/-- Only `load` changes the session. -/
theorem step_other (other : action ≠ .load) : (run.step action).session = run.session := by
  cases action with
  | load => exact absurd rfl other
  | _ => rfl

theorem loaded_step (sound : run.session.IsLoaded client log) (action : Action) :
    (run.step action).session.IsLoaded client (log ++ run.answers action) := by
  have same : run.session.IsLoaded client (log ++ []) := by rwa [List.append_nil]
  cases action with
  | load =>
    cases done : (run.session.load run.service).1 with
    | ok loaded =>
      rw [step_load_ok done]
      exact sound.next done
    | error fault =>
      rw [step_load_error done]
      exact sound.keep done
  | _ => exact same

theorem loaded_steps (sound : run.session.IsLoaded client log) (actions : List Action) :
    (run.steps actions).session.IsLoaded client (log ++ run.allAnswers actions) := by
  induction actions generalizing run log with
  | nil =>
    rw [allAnswers, List.append_nil]
    exact sound
  | cons action actions ih =>
    rw [allAnswers, ← List.append_assoc]
    exact ih (loaded_step sound action)

/-- State invariant over every sequence of actions: the catalog is that of the last load that
succeeds. Failed loads and all other actions preserve the session. Schema names are pairwise
different, look-ups return exactly the held records of the requested names, and `notInitialized` is
raised if and only if no schema is loaded. -/
theorem steps_loaded (client : Client) (service : Service) (files : FileTree)
    (actions : List Action) :
    let run := (start client service files).steps actions
    let loads := ((start client service files).allAnswers actions).filterMap
      (Session.catalogIn client)
    let session := run.session
    session.catalog = loads.getLast?.getD [] ∧
    (∀ loaded, (session.load run.service).1 = .ok loaded →
      (run.step .load).session = loaded ∧
        Session.catalogIn client run.service.nextReply = some loaded.catalog) ∧
    (∀ fault, (session.load run.service).1 = .error fault →
      (run.step .load).session = session ∧
        Session.catalogIn client run.service.nextReply = none) ∧
    (∀ action, action ≠ .load → (run.step action).session = session) ∧
    (session.schemas.map (·.name)).Nodup ∧
    (∀ name found, session.schema? name = some found ↔
      found ∈ session.schemas ∧ found.name = name) ∧
    (∀ schema name found, session.table? schema name = some found ↔
      ∃ held ∈ session.schemas, held.name = schema ∧
        found ∈ held.tables.records ∧ found.name = name) ∧
    (∀ schema name found, session.function? schema name = some found ↔
      ∃ held ∈ session.schemas, held.name = schema ∧
        found ∈ held.functions.records ∧ found.name = name) ∧
    ∀ directory tree, (session.generateTypes directory tree).1 = .error (.service .notInitialized) ↔
      session.schemas = [] := by
  intro run loads session
  have sound : session.IsLoaded client ([] ++ (start client service files).allAnswers actions) :=
    loaded_steps (Session.isLoaded_new client) actions
  refine ⟨sound.catalog, fun loaded done => ?_, fun fault failed => ?_, fun _ => step_other,
    sound.keyed.nodup_names, fun name found => sound.keyed.get?_eq_some, ?_, ?_, ?_⟩
  · exact ⟨step_load_ok done, sound.own ▸ (Session.load_ok done).2.1⟩
  · exact ⟨step_load_error failed, sound.own ▸ Session.load_error failed⟩
  · exact fun schema name found => sound.inside fun held record => record.tables
  · exact fun schema name found => sound.inside fun held record => record.functions
  · exact fun directory tree => Session.generateTypes_notInitialized_iff

/-- Five replies, of which only the second can be read. -/
def disturbed : Service where
  replies :=
    [.failure "down", .response { body := "[\x7b\"name\": \"s\"\x7d]" },
      .response { status := 503 }, .response { body := "[" }, .response { body := "[\x7b\x7d]" }]

theorem steps_loaded_disturbed :
    let first := start (.ofUrl "http://h/api/") disturbed { home := [] }
    let before := first.steps [.load]
    let after := first.steps [.load, .load, .schema "s", .load, .load, .load]
    (∀ directory tree,
      (before.session.generateTypes directory tree).1 = .error (.service .notInitialized)) ∧
    Action.close ≠ .load ∧ (after.step .close).session = after.session ∧
    after.session.schemas.map (·.name) = ["s".toList] := by
  intro first before after
  obtain ⟨-, -, -, -, -, -, -, -, refused⟩ :=
    steps_loaded (.ofUrl "http://h/api/") disturbed { home := [] } [.load]
  obtain ⟨-, -, -, others, -⟩ := steps_loaded (.ofUrl "http://h/api/") disturbed { home := [] }
    [.load, .load, .schema "s", .load, .load, .load]
  have empty : before.session.schemas = [] := List.map_eq_nil_iff.mp
    (by decide +kernel : before.session.schemas.map (·.name) = [])
  have other : Action.close ≠ .load := fun same => nomatch same
  exact ⟨fun directory tree => (refused directory tree).mpr empty, other, others .close other,
    by decide +kernel⟩

end SessionRun
end TypedCatalog
