import TypedCatalog.CommandLine.Codegen
import TypedCatalog.Proofs.Catalog.Cache
import TypedCatalog.Proofs.CommandLine.Selection
import TypedCatalog.Proofs.Declaration.Generate

/-! Frame property of the codegen command: `IsReady` is the exact condition under which it runs
`generateBy`; otherwise it changes no file. -/
namespace TypedCatalog.CommandLine.Codegen

open Catalog
open Declaration (AreApart Complete IsOutput Renderer Touches Writing generateBy moduleFile
  renderFully writeModules)

variable {arguments : Arguments} {world : World} {schemas chosen : List Schema}

/-- All schemas that the arguments name: those of the collected files in their order and in document
order, or those of the service. -/
inductive Gathers (arguments : Arguments) (world : World) : List Schema → Prop where
  | files {paths : List Path} {schemas : List Schema} : arguments.operands ≠ [] →
      Snapshot.collect world.files (arguments.operands.map .ofText) = .ok paths → paths ≠ [] →
      SchemaCache.directAll world.files paths = .ok schemas → Gathers arguments world schemas
  | service {schemas : List Schema} : arguments.operands = [] →
      (Directory.schemas (.ofUrl (urlOf arguments world)) world.service).1 = .ok schemas →
      Gathers arguments world schemas

/-- The chosen schemas are those among the gathered that `Arguments.Wants` in their order, and not
empty. -/
def Chooses (arguments : Arguments) (world : World) (chosen : List Schema) : Prop :=
  chosen ≠ [] ∧ ∃ schemas, Gathers arguments world schemas ∧
    chosen = schemas.filter fun schema => arguments.Wants schema

theorem Gathers.unique {others : List Schema} (first : Gathers arguments world schemas)
    (second : Gathers arguments world others) : schemas = others := by
  cases first with
  | files operands collected _ read =>
    cases second with
    | files _ again _ readToo =>
      cases collected.symm.trans again
      exact Except.ok.inj (read.symm.trans readToo)
    | service absent _ => exact absurd absent operands
  | service absent answered =>
    cases second with
    | files operands _ _ _ => exact absurd absent operands
    | service _ again => exact Except.ok.inj (answered.symm.trans again)

theorem Chooses.unique {others : List Schema} (first : Chooses arguments world chosen)
    (second : Chooses arguments world others) : chosen = others := by
  obtain ⟨-, schemas, gathers, rfl⟩ := first
  obtain ⟨-, again, gathersToo, rfl⟩ := second
  rw [gathers.unique gathersToo]

theorem readFiles_eq {tree : FileTree} {cache : SchemaCache} (sound : cache.IsOf tree)
    (paths : List Path) (notes : List Note) :
    (readFiles tree paths cache notes).1 = SchemaCache.directAll tree paths := by
  induction paths generalizing cache notes with
  | nil => rfl
  | cons path paths ih =>
    obtain ⟨first, next⟩ := sound.get path
    unfold readFiles SchemaCache.directAll
    rw [← first]
    split
    · rename_i got
      rw [got]
    · rename_i got
      rw [got] at next ⊢
      exact congrArg (Except.map _) (ih next _)

/-- `load` stops with a reason if no list of schemas satisfies the relation, and otherwise returns
one that does. -/
inductive Yields (holds : List Schema → Prop) : Except Stop Loaded → Prop where
  | stopped {stop : Stop} : (∀ schemas, ¬holds schemas) → Yields holds (.error stop)
  | loaded {loaded : Loaded} : holds loaded.schemas → Yields holds (.ok loaded)

theorem yields_fromFiles (operands : arguments.operands ≠ []) :
    Yields (Gathers arguments world)
      (fromFiles world.files (arguments.operands.map .ofText)).1 := by
  unfold fromFiles
  split
  · rename_i fault refused
    refine .stopped fun schemas gathers => ?_
    cases gathers with
    | files _ collected _ _ => cases refused.symm.trans collected
    | service absent _ => exact operands absent
  · rename_i nothing
    refine .stopped fun schemas gathers => ?_
    cases gathers with
    | files _ collected nonempty _ =>
      cases nothing.symm.trans collected
      exact nonempty rfl
    | service absent _ => exact operands absent
  · rename_i paths nonempty collected
    have read := readFiles_eq (SchemaCache.isOf_new world.files) paths []
    split
    · rename_i fault notes refused
      rw [refused] at read
      refine .stopped fun schemas gathers => ?_
      cases gathers with
      | files _ again _ readToo =>
        cases collected.symm.trans again
        cases read.trans readToo
      | service absent _ => exact operands absent
    · rename_i schemas notes done
      rw [done] at read
      exact .loaded (.files operands collected (fun empty => nonempty empty) read.symm)

theorem yields_fromService (absent : arguments.operands = []) :
    Yields (Gathers arguments world) (fromService (urlOf arguments world) world.service).1 := by
  unfold fromService Client.closing
  cases asked : Directory.schemas (.ofUrl (urlOf arguments world)) world.service with
  | mk outcome service =>
    cases outcome with
    | error fault =>
      refine .stopped fun schemas gathers => ?_
      cases gathers with
      | files operands _ _ _ => exact operands absent
      | service _ answered =>
        rw [asked] at answered
        cases answered
    | ok schemas => exact .loaded (.service absent (by rw [asked]))

theorem Yields.select {result : Except Stop Loaded}
    (yields : Yields (Gathers arguments world) result) :
    Yields (Chooses arguments world) (result >>= Codegen.select (arguments.all "--schema")) := by
  cases yields with
  | stopped nothing =>
    refine .stopped fun chosen chooses => ?_
    obtain ⟨-, schemas, gathers, -⟩ := chooses
    exact nothing schemas gathers
  | @loaded loaded gathers =>
    change Yields (Chooses arguments world) (Codegen.select (arguments.all "--schema") loaded)
    have selected : Schema.select (arguments.all "--schema") loaded.schemas = _ :=
      arguments.select_eq_filter loaded.schemas
    unfold Codegen.select
    rw [selected]
    dsimp only
    split
    · rename_i empty
      refine .stopped fun chosen chooses => ?_
      obtain ⟨nonempty, schemas, again, rfl⟩ := chooses
      rw [← gathers.unique again] at nonempty
      exact nonempty (List.isEmpty_iff.mp empty)
    · rename_i nonempty
      exact .loaded ⟨fun empty => nonempty (List.isEmpty_iff.mpr empty), _, gathers, rfl⟩

theorem files_report (world : World) (isVerbose : Bool) (notes : List Note) :
    (world.report isVerbose notes).files = world.files := by
  unfold World.report
  split
  · rfl
  · rfl

theorem yields_load (arguments : Arguments) (world : World) :
    Yields (Chooses arguments world) (load arguments world).1 ∧
      (load arguments world).2.files = world.files := by
  unfold load
  dsimp only
  by_cases absent : arguments.operands = []
  · rw [absent, List.isEmpty_nil, if_pos rfl]
    exact ⟨(yields_fromService absent).select, files_report _ _ _⟩
  · have given : arguments.operands.isEmpty = false := by simpa using absent
    rw [given]
    exact ⟨(yields_fromFiles absent).select, files_report _ _ _⟩

/-- The output directory. -/
def output (arguments : Arguments) : Path :=
  ((arguments.last? "--output").map Path.ofText).getD defaultOutput

/-- Inversion of `write`: the output path cannot be resolved, or `generateBy` runs on the resolved
directory. -/
inductive Written (writing : Writing) (arguments : Arguments) (schemas : List Schema)
    (files : FileTree) : Ending → FileTree → Prop where
  | nowhere {fault : Fault} : files.resolve (output arguments) = .error fault →
      Written writing arguments schemas files (ending (.fault fault)) files
  | refused {directory : Path} {fault : Fault} :
      files.resolve (output arguments) = .ok directory →
      (generateBy writing (mode arguments) directory schemas files).result = .error fault →
      Written writing arguments schemas files (ending (.fault fault))
        (generateBy writing (mode arguments) directory schemas files).files
  | returned {directory : Path} {count : Nat} :
      files.resolve (output arguments) = .ok directory →
      (generateBy writing (mode arguments) directory schemas files).result = .ok count →
      Written writing arguments schemas files (.returned none)
        (generateBy writing (mode arguments) directory schemas files).files

theorem written (writing : Writing) (arguments : Arguments) (loaded : Loaded) (world : World) :
    Written writing arguments loaded.schemas world.files
      (write writing arguments loaded world).1 (write writing arguments loaded world).2.files := by
  unfold write
  dsimp only
  split
  · rename_i fault nowhere
    exact .nowhere nowhere
  · rename_i directory resolves
    split
    · rename_i fault refused
      rw [files_report]
      exact .refused resolves refused
    · rename_i count done
      rw [World.print, files_report]
      exact .returned resolves done

theorem ending_ne_returned (stop : Stop) (code : Option Int) : ending stop ≠ .returned code := by
  unfold ending
  split
  · exact fun same => by cases same
  · exact fun same => by cases same
  · split
    · exact fun same => by cases same
    · exact fun same => by cases same

/-- `Written` without its constructors: either the output path cannot be resolved, or the files are
those of `generateBy`, which returns if the command does. -/
theorem Written.nowhere_or_generated {writing : Writing} {files after : FileTree} {ended : Ending}
    (written : Written writing arguments schemas files ended after) :
    (∃ fault, files.resolve (output arguments) = .error fault ∧ after = files ∧
      ended = ending (.fault fault)) ∨
    ∃ directory, files.resolve (output arguments) = .ok directory ∧
      let run := generateBy writing (mode arguments) directory schemas files
      after = run.files ∧ ∀ code, ended = .returned code → ∃ count, run.result = .ok count := by
  cases written with
  | nowhere nowhere => exact .inl ⟨_, nowhere, rfl, rfl⟩
  | refused resolves refused =>
    exact .inr ⟨_, resolves, rfl, fun code same => absurd same (ending_ne_returned _ code)⟩
  | returned resolves done => exact .inr ⟨_, resolves, rfl, fun _ _ => ⟨_, done⟩⟩

/-- Schemas with a repeated module name are not written. -/
theorem Written.of_repeated {writing : Writing} {files after : FileTree} {ended : Ending}
    (written : Written writing arguments schemas files ended after)
    (repeated : ¬(schemas.map moduleFile).Nodup) :
    after = files ∧ ∀ code, ended ≠ .returned code := by
  rcases written.nowhere_or_generated with ⟨fault, -, rfl, rfl⟩ | ⟨directory, -, rfl, returns⟩
  · exact ⟨rfl, ending_ne_returned _⟩
  · obtain ⟨before, owner, between, schema, later, -, -, -, same⟩ :=
      Declaration.generateBy_repeated writing (mode arguments) directory files repeated
    rw [same] at returns ⊢
    refine ⟨rfl, fun code returned => ?_⟩
    obtain ⟨count, done⟩ := returns code returned
    cases done

/-- Inversion of `commandBy`: the arguments are refused, no schemas can be chosen, or the chosen
ones are written. -/
inductive Ran (writing : Writing) (texts : List Text) (world : World) :
    Ending → FileTree → Prop where
  | misused {refusal : Refusal} {code : Int} : interface.parse texts = .error refusal →
      Ran writing texts world (.exit code) world.files
  | stopped {arguments : Arguments} {stop : Stop} : interface.parse texts = .ok arguments →
      (∀ chosen, ¬Chooses arguments world chosen) →
      Ran writing texts world (ending stop) world.files
  | written {arguments : Arguments} {chosen : List Schema} {ending : Ending} {after : FileTree} :
      interface.parse texts = .ok arguments → Chooses arguments world chosen →
      Written writing arguments chosen world.files ending after →
      Ran writing texts world ending after

theorem ran_run {writing : Writing} {texts : List Text}
    (parsed : interface.parse texts = .ok arguments) :
    Ran writing texts world (run writing arguments world).1
      (run writing arguments world).2.files := by
  obtain ⟨yields, files⟩ := yields_load arguments world
  unfold run
  cases loading : load arguments world with
  | mk result after =>
    rw [loading] at yields files
    have files : after.files = world.files := files
    cases yields with
    | @stopped stop nothing =>
      change Ran writing texts world (ending stop) after.files
      rw [files]
      exact .stopped parsed nothing
    | @loaded loaded chooses =>
      have written := written writing arguments loaded after
      rw [files] at written
      exact .written parsed chooses written

theorem ran_command (writing : Writing) (texts : List Text) (world : World) :
    Ran writing texts world (commandBy writing texts world).1
      (commandBy writing texts world).2.files := by
  unfold commandBy withArguments
  split
  · rename_i arguments parsed
    exact ran_run parsed
  · rename_i refused
    exact .misused refused
  · rename_i refused
    exact .misused refused

/-- The arguments parse, and they choose schemas with pairwise different module names. -/
structure IsReady (texts : List Text) (world : World) (arguments : Arguments)
    (chosen : List Schema) : Prop where
  parsed : interface.parse texts = .ok arguments
  chooses : Chooses arguments world chosen
  apart : (chosen.map moduleFile).Nodup

/-- A command that is not `IsReady` preserves all files. One that is ready runs `generateBy` on the
chosen schemas: it writes modules of these only, changes no location but their outputs, and under
`AreApart` each touched output holds what is rendered, and all are `Complete` if the command
returns. -/
theorem commandBy_writes_selection {render : Renderer} {writing : Writing}
    (possible : writing.IsPossible render) (texts : List Text) (world : World) :
    let done := commandBy writing texts world
    ((∀ arguments chosen, ¬IsReady texts world arguments chosen) →
      done.2.files = world.files ∧ ∀ code, done.1 ≠ .returned code) ∧
    ∀ arguments chosen, IsReady texts world arguments chosen →
      (∃ fault, world.files.resolve (output arguments) = .error fault ∧
        done.2.files = world.files) ∨
      ∃ directory, world.files.resolve (output arguments) = .ok directory ∧
        let run := generateBy writing (mode arguments) directory chosen world.files
        done.2.files = run.files ∧ (∀ schema ∈ run.written, schema ∈ chosen) ∧
        (∀ location, ¬IsOutput done.2.files directory chosen location →
          world.files.KeepsFile done.2.files location) ∧
        (AreApart world.files directory chosen →
          Touches render world.files directory chosen done.2.files ∧
          ∀ code, done.1 = .returned code → Complete directory chosen run) := by
  intro done
  have ran := ran_command writing texts world
  change Ran writing texts world done.1 done.2.files at ran
  generalize done.1 = ending, done.2.files = after at ran ⊢
  constructor
  · intro unready
    cases ran with
    | misused _ => exact ⟨rfl, fun code same => by cases same⟩
    | stopped _ _ => exact ⟨rfl, ending_ne_returned _⟩
    | @written arguments chosen _ _ parsed chooses written =>
      -- Schemas are chosen, so that it must be their modules that clash.
      exact written.of_repeated fun apart => unready arguments chosen ⟨parsed, chooses, apart⟩
  · intro arguments chosen ready
    cases ran with
    | misused refused => cases refused.symm.trans ready.parsed
    | stopped parsed nothing =>
      cases parsed.symm.trans ready.parsed
      exact absurd ready.chooses (nothing chosen)
    | written parsed chooses written =>
      cases parsed.symm.trans ready.parsed
      obtain rfl := chooses.unique ready.chooses
      rcases written.nowhere_or_generated with
        ⟨fault, nowhere, rfl, -⟩ | ⟨directory, resolves, rfl, returns⟩
      · exact .inl ⟨fault, nowhere, rfl⟩
      · refine .inr ⟨directory, resolves, rfl, ?_, ?_, fun apart => ⟨?_, ?_⟩⟩
        · exact Declaration.listed_generateBy possible _ directory _ _
        · exact fun _ => Declaration.keepsFile_generateBy possible _ directory _ _
        · exact Declaration.touches_generateBy possible _ apart
        · intro code returned
          obtain ⟨count, done⟩ := returns code returned
          exact Declaration.complete_generateBy possible apart done

def sampleTexts : List Text := ["/a.json", "/b.json", "--schema", "b", "--output", "/gen"]

def sampleArguments : Arguments where
  settings := [("--schema", "b"), ("--output", "/gen")]
  operands := ["/a.json", "/b.json"]

/-- Two snapshot files with one schema each. -/
def sampleWorld : World where
  files := { home := [], nodes := [
    (["a.json"], .file (Text.Utf8.encode "\x7b\"name\": \"a\"\x7d") .zero),
    (["b.json"], .file (Text.Utf8.encode "\x7b\"name\": \"b\"\x7d") .zero)] }

def samplePaths : List Path := [⟨true, ["a.json"]⟩, ⟨true, ["b.json"]⟩]

/-- With `--schema`, only the module of the named schema is written. -/
theorem commandBy_writes_selection_named : (writeModules renderFully).IsPossible renderFully ∧
    ∃ chosen, IsReady sampleTexts sampleWorld sampleArguments chosen ∧
      chosen.map (·.name) = ["b".toList] ∧ AreApart sampleWorld.files ⟨true, ["gen"]⟩ chosen ∧
      (commandBy (writeModules renderFully) sampleTexts sampleWorld).1 = .returned none ∧
      Complete ⟨true, ["gen"]⟩ chosen
        (generateBy (writeModules renderFully) (mode sampleArguments) ⟨true, ["gen"]⟩ chosen
          sampleWorld.files) := by
  have possible := Declaration.isPossible_writeModules renderFully
  obtain ⟨schemas, read, names⟩ : ∃ schemas,
      SchemaCache.directAll sampleWorld.files samplePaths = .ok schemas ∧
        (schemas.filter fun schema => sampleArguments.Wants schema).map (·.name) =
          ["b".toList] := ok_of_shown (by decide +kernel)
  have parsed : interface.parse sampleTexts = .ok sampleArguments := rfl
  have collected : Snapshot.collect sampleWorld.files
      (sampleArguments.operands.map .ofText) = .ok samplePaths := rfl
  have gathers : Gathers sampleArguments sampleWorld schemas :=
    .files (List.cons_ne_nil _ _) collected (List.cons_ne_nil _ _) read
  generalize chosen : schemas.filter (fun schema => sampleArguments.Wants schema) = wanted at names
  have nonempty : wanted ≠ [] := by
    rintro rfl
    cases names
  have single : wanted.map moduleFile = ["types-b.ts".toList] := by
    have same : wanted.map moduleFile =
        (wanted.map (·.name)).map fun name => Name.moduleName name ++ ".ts".toList := by
      rw [List.map_map]
      rfl
    rw [same, names]
    rfl
  have ready : IsReady sampleTexts sampleWorld sampleArguments wanted := by
    refine ⟨parsed, ⟨nonempty, schemas, gathers, chosen.symm⟩, ?_⟩
    rw [single]
    exact List.nodup_singleton _
  have apart : AreApart sampleWorld.files ⟨true, ["gen"]⟩ wanted :=
    Declaration.areApart_of_direct fun _ _ => rfl
  have returned : (commandBy (writeModules renderFully) sampleTexts sampleWorld).1 =
      .returned none := by
    have passed : (match (commandBy (writeModules renderFully) sampleTexts sampleWorld).1 with
        | .returned code => code.isNone
        | _ => false) = true := by decide +kernel
    split at passed
    · rename_i code same
      rw [same, Option.isNone_iff_eq_none.mp passed]
    · cases passed
  refine ⟨possible, wanted, ready, names, apart, returned, ?_⟩
  rcases (commandBy_writes_selection possible sampleTexts sampleWorld).2 _ _ ready with
    ⟨fault, nowhere, -⟩ | ⟨directory, resolves, -, -, -, holds⟩
  · cases nowhere
  · cases resolves
    exact (holds apart).2 none returned

end TypedCatalog.CommandLine.Codegen
