import TypedCatalog.CommandLine.Program
import TypedCatalog.Proofs.CommandLine.Codegen
import TypedCatalog.Proofs.File.Faults
import TypedCatalog.Proofs.Service.Faults

/-! Endings of `program`. Faults of the catalog, the service and the files are reported with an exit
code, except for those that `Escapes` lists: the schemas command reports service faults only. -/
namespace TypedCatalog.CommandLine

open Catalog

/-- The ending is a code, or a fault that is not reported or belongs to the given set. -/
inductive EndsWith (escapes : Fault → Prop) : Ending → Prop where
  | returned (code : Int) : EndsWith escapes (.returned (some code))
  | exit (code : Int) : EndsWith escapes (.exit code)
  | unreported {fault : Fault} : isReported fault = false → EndsWith escapes (.fault fault)
  | escaped {fault : Fault} : escapes fault → EndsWith escapes (.fault fault)

namespace EndsWith

variable {escapes : Fault → Prop} {ending : Ending} {fault : Fault}

theorem mono {more : Fault → Prop} (ends : EndsWith escapes ending)
    (implies : ∀ fault, escapes fault → more fault) : EndsWith more ending := by
  cases ends with
  | returned code => exact .returned code
  | exit code => exact .exit code
  | unreported other => exact .unreported other
  | escaped known => exact .escaped (implies _ known)

theorem fault_escapes (ends : EndsWith escapes (.fault fault))
    (reported : isReported fault = true) : escapes fault := by
  cases ends with
  | unreported other => cases other.symm.trans reported
  | escaped known => exact known

theorem code_or_fault (ends : EndsWith escapes ending) :
    (∃ code, ending = .returned (some code)) ∨ (∃ code, ending = .exit code) ∨
      ∃ fault, ending = .fault fault := by
  cases ends with
  | returned code => exact .inl ⟨code, rfl⟩
  | exit code => exact .inr (.inl ⟨code, rfl⟩)
  | unreported _ => exact .inr (.inr ⟨_, rfl⟩)
  | escaped _ => exact .inr (.inr ⟨_, rfl⟩)

end EndsWith

theorem isReported_value {fault : Fault} (isOfValue : fault.IsOfValue) :
    isReported fault = false := by
  cases isOfValue with
  | misuse _ => rfl
  | content _ => rfl

variable {texts : List Text} {world : World} {arguments : Arguments} {fault : Fault}

theorem ends_withArguments {escapes : Fault → Prop} (name : Text) (interface : Interface)
    {run : Arguments → World → Ending × World}
    (each : ∀ arguments, interface.parse texts = .ok arguments →
      EndsWith escapes (run arguments world).1) :
    EndsWith escapes (withArguments name interface texts run world).1 := by
  unfold withArguments
  split
  · rename_i arguments parsed
    exact each arguments parsed
  · exact .exit 0
  · exact .exit 2

namespace Codegen

/-- The codegen command ends with a fault only if `isReported` rejects it. -/
theorem ending_fault {stop : Stop} (ended : ending stop = .fault fault) :
    isReported fault = false := by
  cases stop with
  | noFiles => cases ended
  | noSchemas => cases ended
  | fault first =>
    unfold ending at ended
    dsimp only at ended
    split at ended
    · cases ended
    · rename_i other
      cases ended
      exact Bool.not_eq_true _ ▸ other

theorem command_fault (ended : (command texts world).1 = .fault fault) :
    isReported fault = false := by
  have ran := ran_command (Declaration.writeModules Declaration.renderFully) texts world
  change Ran _ texts world (command texts world).1 _ at ran
  generalize (command texts world).1 = last, (commandBy _ texts world).2.files = after at ran ended
  cases ran with
  | misused _ => cases ended
  | stopped _ _ => exact ending_fault ended
  | written _ _ written =>
    cases written with
    | nowhere _ => exact ending_fault ended
    | refused _ _ => exact ending_fault ended
    | returned _ _ => cases ended

end Codegen

theorem ends_settle {escapes : Fault → Prop} {ended : Ending × World}
    (faults : ∀ fault, ended.1 = .fault fault → isReported fault = false) :
    EndsWith escapes (settle ended).1 := by
  obtain ⟨ending, after⟩ := ended
  cases ending with
  | returned code => exact .returned _
  | exit code => exact .returned _
  | quit message => exact .returned _
  | fault fault => exact .unreported (faults fault rfl)

namespace Health

theorem fails_ask (client : Client) : ActionFailsOnly Fault.IsOfExchange (ask client) :=
  (Directory.fails_health client).bind fun _ => (Directory.fails_cacheStatus client).bind fun _ =>
    .lift (.ok _)

theorem ends_run {escapes : Fault → Prop} (arguments : Arguments) (world : World) :
    EndsWith escapes (run arguments world).1 := by
  have asked := fails_ask (Client.ofUrl (urlOf arguments world)) world.service
  unfold run Client.closing
  dsimp only
  generalize ask (Client.ofUrl (urlOf arguments world)) world.service = reply at asked ⊢
  obtain ⟨result, service⟩ := reply
  cases asked with
  | ok told => exact .returned _
  | error known =>
    cases known with
    | service fault => exact .returned 1
    | value isOfValue =>
      have other := isReported_value isOfValue
      cases isOfValue with
      | misuse _ => exact .unreported other
      | content _ => exact .unreported other

end Health

namespace Schemas

/-- The schemas that the command fetches with its arguments. -/
def fetched (arguments : Arguments) (world : World) : Except Fault (List Schema) :=
  (Directory.schemas (.ofUrl (urlOf arguments world)) world.service).1

theorem fails_save (path : Path) (schemas : List Schema) :
    ActionFailsOnly Fault.IsOfFile (save path schemas) :=
  (FileTree.fails_makeDirectories _ _).bind fun _ =>
    FileAction.fails_change fun tree => tree.fails_writeText path _

/-- The reported faults that the schemas command raises: a malformed record in the answer, and a
file fault of the output. -/
inductive Escapes (texts : List Text) (world : World) : Fault → Prop where
  | record {arguments : Arguments} {problem : RecordFault} :
      interface.parse texts = .ok arguments →
      fetched arguments world = .error (.record problem) → Escapes texts world (.record problem)
  | file {arguments : Arguments} {output place : Text} {schemas : List Schema}
      {problem : FileProblem} : interface.parse texts = .ok arguments →
      fetched arguments world = .ok schemas → arguments.last? "--output" = some output →
      (save (.ofText output) (Schema.select (arguments.all "--schema") schemas) world.files).1 =
        .error (.file problem place) →
      Escapes texts world (.file problem place)

theorem isReported_escapes (escapes : Escapes texts world fault) : isReported fault = true := by
  cases escapes with
  | record _ _ => rfl
  | file _ _ _ _ => rfl

/-- `run` by cases on the result of `fetched`. -/
theorem run_eq (arguments : Arguments) (world : World) :
    ∃ service, run arguments world = match fetched arguments world with
      | .error (.service fault) =>
        (.returned (some 1), { world with service }.complain (errorText (.service fault)))
      | .error fault => (.fault fault, { world with service })
      | .ok schemas =>
        finish arguments (Schema.select (arguments.all "--schema") schemas)
          { world with service } := by
  unfold fetched run Client.closing
  dsimp only
  generalize Directory.schemas (.ofUrl (urlOf arguments world)) world.service = reply
  obtain ⟨result, service⟩ := reply
  refine ⟨service.close, ?_⟩
  cases result with
  | ok schemas => rfl
  | error fault => cases fault <;> rfl

theorem finish_saved {output : Text} (named : arguments.last? "--output" = some output)
    (schemas : List Schema) (world : World) :
    (finish arguments schemas world).1 = match (save (.ofText output) schemas world.files).1 with
      | .error fault => .fault fault
      | .ok () => .returned (some 0) := by
  unfold finish
  rw [named]
  dsimp only [Option.map_some]
  generalize save (.ofText output) schemas world.files = saved
  obtain ⟨result, files⟩ := saved
  cases result with
  | error fault => rfl
  | ok done => rfl

theorem command_escapes (escapes : Escapes texts world fault) :
    (command texts world).1 = .fault fault := by
  cases escapes with
  | @record arguments problem parsed answered =>
    obtain ⟨service, same⟩ := run_eq arguments world
    rw [answered] at same
    simp only [command, withArguments, parsed, same]
  | @file arguments output place schemas problem parsed answered named unsaved =>
    obtain ⟨service, same⟩ := run_eq arguments world
    rw [answered] at same
    simp only [command, withArguments, parsed, same, finish_saved named, unsaved]

theorem ends_command (texts : List Text) (world : World) :
    EndsWith (Escapes texts world) (command texts world).1 := by
  refine ends_withArguments _ _ fun arguments parsed => ?_
  obtain ⟨service, same⟩ := run_eq arguments world
  rw [same]
  cases answered : fetched arguments world with
  | error fault =>
    rcases (Directory.fails_schemas _ _).allows answered with isOfExchange | ⟨problem, rfl⟩
    · cases isOfExchange with
      | service cause => exact .returned 1
      | value isOfValue =>
        have other := isReported_value isOfValue
        cases isOfValue with
        | misuse _ => exact .unreported other
        | content _ => exact .unreported other
    · exact .escaped (.record parsed answered)
  | ok schemas =>
    cases named : arguments.last? "--output" with
    | none =>
      simp only [finish, named, Option.map_none]
      exact .returned 0
    | some output =>
      have fails := fails_save (.ofText output)
        (Schema.select (arguments.all "--schema") schemas) world.files
      dsimp only
      rw [finish_saved named]
      dsimp only
      cases saved : (save (.ofText output) (Schema.select (arguments.all "--schema") schemas)
          world.files).1 with
      | ok done => exact .returned 0
      | error fault =>
        cases fails.allows saved with
        | file problem place => exact .escaped (.file parsed answered named saved)
        | zeroByte => exact .unreported rfl

end Schemas

theorem ends_program (texts : List Text) (world : World) :
    EndsWith (fun fault => ∃ rest : List Text,
        texts = ("schemas" : Text) :: rest ∧ Schemas.Escapes rest world fault)
      (program texts world).1 := by
  unfold program
  split
  · exact .returned 0
  · rename_i name texts
    split
    · exact .returned 0
    · split
      · rename_i command found
        have named := List.find?_some found
        have listed := List.mem_of_find?_eq_some found
        simp only [commands, List.mem_cons, List.not_mem_nil, or_false] at listed
        rcases listed with rfl | rfl | rfl
        · exact ends_settle fun fault ended => Codegen.command_fault ended
        · obtain rfl : name = "schemas" := (eq_of_beq named).symm
          exact (Schemas.ends_command texts world).mono fun fault escapes => ⟨texts, rfl, escapes⟩
        · exact ends_withArguments _ _ fun arguments _ => Health.ends_run arguments world
      · exact .returned 1

/-- `program` ends with a code or a fault. A fault of a class that is reported escapes if and only
if the first argument is `schemas` and the fault is one that `Schemas.Escapes` lists. -/
theorem program_escapes_iff (texts : List Text) (world : World) :
    let ending := (program texts world).1
    ((∃ code, ending = .returned (some code)) ∨ (∃ code, ending = .exit code) ∨
      ∃ fault, ending = .fault fault) ∧
    ∀ fault, (ending = .fault fault ∧ isReported fault = true) ↔
      ∃ rest : List Text,
        texts = ("schemas" : Text) :: rest ∧ Schemas.Escapes rest world fault := by
  intro ending
  have ends : EndsWith _ ending := ends_program texts world
  refine ⟨ends.code_or_fault, fun fault => ⟨?_, ?_⟩⟩
  · rintro ⟨ended, reported⟩
    rw [ended] at ends
    exact ends.fault_escapes reported
  · rintro ⟨rest, rfl, escapes⟩
    exact ⟨Schemas.command_escapes escapes, Schemas.isReported_escapes escapes⟩

/-- The ending is a fault that `isReported` accepts. -/
def Ending.isUnreported : Ending → Bool
  | .fault fault => isReported fault
  | _ => false

/-- A service that answers with a schema without a name. -/
def namelessWorld : World where
  files := { home := [] }
  service := { replies := [.response { body := "[\x7b\x7d]" }] }

/-- The record fault of `namelessWorld` escapes. -/
theorem program_nameless : ∃ fault,
    (program ["schemas"] namelessWorld).1 = .fault fault ∧ isReported fault = true := by
  have escapes : (program ["schemas"] namelessWorld).1.isUnreported = true := by decide +kernel
  unfold Ending.isUnreported at escapes
  split at escapes
  · rename_i fault ended
    exact ⟨fault, ended, escapes⟩
  · cases escapes

end TypedCatalog.CommandLine
