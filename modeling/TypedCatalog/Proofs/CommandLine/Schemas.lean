import TypedCatalog.CommandLine.Schemas
import TypedCatalog.Proofs.Catalog.Loading
import TypedCatalog.Proofs.CommandLine.Selection
import TypedCatalog.Proofs.Json.LineEnds
import TypedCatalog.Proofs.Service.Client
import TypedCatalog.Proofs.Yaml.LineEnds

/-! Round trip of snapshots: the file that the schemas command saves parses to the selected records,
in the fetched order and field by field. -/
namespace TypedCatalog.CommandLine.Schemas

open Catalog
open Json (IsDocument)

/-- The document that a snapshot contains. -/
def saved (schemas : List Schema) : Value := .ofFields [("schemas", .list (schemas.map Schema.plain))]

variable {schemas : List Schema} {path place : Path}

theorem isDocument_saved (records : ∀ schema ∈ schemas, schema.IsRecord) :
    IsDocument (saved schemas) := by
  refine .dict (List.pairwise_singleton _ _) ?_
  intro field member
  cases List.mem_singleton.mp member
  apply IsDocument.list
  intro item inside
  obtain ⟨schema, held, rfl⟩ := List.mem_map.mp inside
  exact Schema.isDocument_plain (records schema held)

theorem documents_saved (schemas : List Schema) :
    Snapshot.documents (saved schemas) = some (schemas.map Schema.plain) := by
  have dicts : (schemas.map Schema.plain).all Value.isDict = true := by
    rw [List.all_map]
    exact List.all_eq_true.mpr fun _ _ => rfl
  change (if (schemas.map Schema.plain).all Value.isDict then some (schemas.map Schema.plain)
    else none) = _
  rw [dicts]
  rfl

theorem isClean_snapshotText (records : ∀ schema ∈ schemas, schema.IsRecord) (path : Path) :
    IsClean (snapshotText path schemas) := by
  have document := isDocument_saved records
  unfold snapshotText
  dsimp only
  split
  · exact Json.isClean_write document
  · exact Yaml.isClean_write document

theorem read_snapshotText (records : ∀ schema ∈ schemas, schema.IsRecord)
    (yaml : path.suffix ≠ Snapshot.jsonSuffix →
      Yaml.read (Yaml.write (saved schemas)) = .ok (saved schemas))
    (format : Snapshot.SameFormat path place) :
    Snapshot.read place (snapshotText path schemas) = .ok (saved schemas) := by
  have document := isDocument_saved records
  by_cases json : path.suffix = Snapshot.jsonSuffix
  · have text : snapshotText path schemas = Json.write (saved schemas) := if_pos json
    rw [Snapshot.read, if_pos (format.mp json), text, Json.read_write document]
  · have text : snapshotText path schemas = Yaml.write (saved schemas) := if_neg json
    rw [Snapshot.read, if_neg fun other => json (format.mpr other), text, yaml json]

/-- `parseBytes` inverts `snapshotText`, for YAML under the round trip of its reader and writer. -/
theorem parseBytes_snapshotText (records : ∀ schema ∈ schemas, schema.IsRecord)
    (yaml : path.suffix ≠ Snapshot.jsonSuffix →
      Yaml.read (Yaml.write (saved schemas)) = .ok (saved schemas))
    (format : Snapshot.SameFormat path place) :
    Snapshot.parseBytes place (Text.Utf8.encode (snapshotText path schemas)) = .ok schemas := by
  have back : (schemas.map Schema.plain).mapM (Snapshot.schemaIn place) = .ok schemas := by
    apply mapM_map
    intro schema member
    rw [Snapshot.schemaIn, Schema.read_plain (records schema member)]
  simp only [Snapshot.parseBytes, Text.Utf8.decode?_encode,
    FileTree.joinLineEnds_of_clean (isClean_snapshotText records path),
    read_snapshotText records yaml format, documents_saved, back]

theorem save_ok {files after : FileTree} (done : save path schemas files = (.ok (), after)) :
    ∃ middle, files.KeepsDirectories middle ∧
      middle.writeText path (snapshotText path schemas) = .ok after := by
  obtain ⟨⟨⟩, middle, made, done⟩ := action_ok done
  refine ⟨middle, FileTree.keeps_of_made made, ?_⟩
  unfold FileAction.change at done
  split at done
  · rename_i written
    cases done
    exact written
  · cases done

theorem getAll_save {files after : FileTree} (home : files.HasHome)
    (records : ∀ schema ∈ schemas, schema.IsRecord)
    (yaml : path.suffix ≠ Snapshot.jsonSuffix →
      Yaml.read (Yaml.write (saved schemas)) = .ok (saved schemas))
    (format : after.IsDirect path ∨
      ∀ place, after.resolve path = .ok place → Snapshot.SameFormat path place)
    (done : save path schemas files = (.ok (), after)) :
    (SchemaCache.getAll after [path] {}).1 = .ok schemas := by
  obtain ⟨middle, keeps, written⟩ := save_ok done
  have after_home := (keeps.trans (FileTree.keeps_writeBytes written)).hasHome home
  obtain ⟨location, changed, stat⟩ := FileTree.stat_writeBytes written
  obtain ⟨-, located, stands⟩ := FileTree.stat_ok stat
  obtain ⟨resolves, again⟩ := after_home.resolve stat
  have format : Snapshot.SameFormat path (.ofLocation location) := by
    rcases format with direct | format
    · refine Snapshot.sameFormat_of_isDirect after_home direct located ?_
      rw [stands]
      exact fun same => nomatch same
    · exact format _ resolves
  have stamped : Stamp.ofPath after path = .ok (.ofFile location
      (Text.Utf8.encode (snapshotText path schemas)) changed) := by
    unfold Stamp.ofPath
    rw [stat, resolves]
    rfl
  have direct : SchemaCache.direct after path = .ok schemas := by
    unfold SchemaCache.direct
    rw [stamped]
    exact (Snapshot.parse_file again).trans (parseBytes_snapshotText records yaml format)
  rw [SchemaCache.getAll_fresh after_home, SchemaCache.directAll, direct]
  exact congrArg Except.ok (List.append_nil schemas)

/-- `SchemaCache.getAll` of a fresh cache on the saved file returns the fetched schemas that
`Arguments.Wants`, in the fetched order. The excluded paths are links to a file of the other format;
`yaml` assumes the YAML round trip where that format is written. -/
theorem getAll_output_eq_selection {texts : List Text} {arguments : Arguments} {output : Text}
    {world after : World} {fetched : List Schema} (home : world.files.HasHome)
    (parsed : interface.parse texts = .ok arguments)
    (named : arguments.last? "--output" = some output)
    (answered : (Directory.schemas (.ofUrl (urlOf arguments world)) world.service).1 = .ok fetched)
    (yaml : (Path.ofText output).suffix ≠ Snapshot.jsonSuffix →
      Yaml.read (Yaml.write (saved (fetched.filter fun schema => arguments.Wants schema))) =
        .ok (saved (fetched.filter fun schema => arguments.Wants schema)))
    (returned : command texts world = (.returned (some 0), after))
    (format : after.files.IsDirect (.ofText output) ∨
      ∀ place, after.files.resolve (.ofText output) = .ok place →
        Snapshot.SameFormat (.ofText output) place) :
    (SchemaCache.getAll after.files [Path.ofText output] {}).1 =
      .ok (fetched.filter fun schema => arguments.Wants schema) := by
  obtain ⟨service, asked⟩ : ∃ service, Directory.schemas (.ofUrl (urlOf arguments world))
      world.service = (.ok fetched, service) := ⟨_, Prod.ext answered rfl⟩
  have records := Directory.isRecord_schemas asked
  have selected : Schema.select (arguments.all "--schema") fetched = _ :=
    arguments.select_eq_filter fetched
  have members : ∀ schema ∈ fetched.filter fun schema => arguments.Wants schema, schema.IsRecord :=
    fun schema member => records schema (List.mem_filter.mp member).1
  generalize fetched.filter (fun schema => arguments.Wants schema) = chosen
    at yaml selected members ⊢
  simp only [command, withArguments, parsed, run, Client.closing, asked, finish, named,
    Option.map_some, selected] at returned
  split at returned
  · cases returned
  · rename_i files done
    cases returned
    exact getAll_save home members yaml format done

/-- The names of schemas and of their functions. -/
def namesOf (schemas : List Schema) : List (Text × List Text) :=
  schemas.map fun schema => (schema.name, schema.functions.map (·.1))

def sampleTexts : List Text := ["--output", "/s.json", "--schema", "s"]

def sampleArguments : Arguments := { settings := [("--output", "/s.json"), ("--schema", "s")] }

/-- Two schemas; the one that `--schema` names has a function with an empty list of result
columns. -/
def sampleWorld : World where
  files := { home := [] }
  service := { replies := [.response { body :=
    "[\x7b\"name\": \"r\"\x7d, \x7b\"name\": \"s\", \"functions\": [\x7b\"name\": \"f\", \"returnColumns\": []\x7d]\x7d]" }] }

theorem returned_of_code (texts : List Text) (world : World)
    (passed : (match (command texts world).1 with
      | .returned code => code
      | _ => none) = some 0) :
    command texts world = (.returned (some 0), (command texts world).2) := by
  have returned : (command texts world).1 = .returned (some 0) := by
    split at passed
    · rename_i same
      rw [same, passed]
    · cases passed
  rw [← returned]

theorem getAll_output_sample : ∃ fetched,
    (Directory.schemas (.ofUrl defaultUrl) sampleWorld.service).1 = .ok fetched ∧
    namesOf fetched = [(['r'], []), (['s'], [['f']])] ∧
    namesOf (fetched.filter fun schema => sampleArguments.Wants schema) = [(['s'], [['f']])] ∧
    (SchemaCache.getAll (command sampleTexts sampleWorld).2.files [Path.ofText "/s.json"] {}).1 =
      .ok (fetched.filter fun schema => sampleArguments.Wants schema) := by
  obtain ⟨fetched, answered, shape⟩ : ∃ fetched,
      (Directory.schemas (.ofUrl (urlOf sampleArguments sampleWorld)) sampleWorld.service).1 =
        .ok fetched ∧ (namesOf fetched, namesOf (fetched.filter fun schema =>
          sampleArguments.Wants schema)) =
            ([(['r'], []), (['s'], [['f']])], [(['s'], [['f']])]) :=
    ok_of_shown (by decide +kernel)
  have ran := returned_of_code sampleTexts sampleWorld (by decide +kernel)
  have json : (Path.ofText "/s.json").suffix = Snapshot.jsonSuffix := by decide +kernel
  have parsed : interface.parse sampleTexts = .ok sampleArguments := rfl
  have home : sampleWorld.files.HasHome := rfl
  have named : sampleArguments.last? "--output" = some "/s.json".toList := rfl
  have plain : (command sampleTexts sampleWorld).2.files.links.entries = [] := by decide +kernel
  have direct := FileTree.isDirect_of_empty plain (.ofText "/s.json")
  exact ⟨fetched, answered, congrArg Prod.fst shape, congrArg Prod.snd shape,
    getAll_output_eq_selection home parsed named answered (fun other => absurd json other) ran
      (.inl direct)⟩

def linkedTexts : List Text := ["--output", "/p.yaml"]

/-- One schema, and a link from `p.yaml` to `data.json`. -/
def linkedWorld : World where
  files := { home := [], links := { entries := [(["p.yaml"], ["data.json"])] } }
  service := { replies := [.response { body := "[\x7b\"name\": \"s\"\x7d]" }] }

/-- Through the link of `linkedWorld` the command writes YAML, which the cache reads as JSON by the
resolved path. -/
theorem getAll_output_linked : linkedWorld.files.HasHome ∧ ∃ fetched,
    (Directory.schemas (.ofUrl defaultUrl) linkedWorld.service).1 = .ok fetched ∧
    ((Yaml.read (Yaml.write (saved fetched))).map Json.write).toOption =
      some (Json.write (saved fetched)) ∧
    command linkedTexts linkedWorld = (.returned (some 0), (command linkedTexts linkedWorld).2) ∧
    ∀ schemas, (SchemaCache.getAll (command linkedTexts linkedWorld).2.files
      [Path.ofText "/p.yaml"] {}).1 ≠ .ok schemas := by
  obtain ⟨fetched, answered, holds⟩ : ∃ fetched,
      (Directory.schemas (.ofUrl defaultUrl) linkedWorld.service).1 = .ok fetched ∧
        decide (((Yaml.read (Yaml.write (saved fetched))).map Json.write).toOption =
          some (Json.write (saved fetched))) = true := ok_of_shown (by decide +kernel)
  have ran := returned_of_code linkedTexts linkedWorld (by decide +kernel)
  have failed : (SchemaCache.getAll (command linkedTexts linkedWorld).2.files
      [Path.ofText "/p.yaml"] {}).1.toOption.isNone = true := by decide +kernel
  refine ⟨rfl, fetched, answered, of_decide_eq_true holds, ran, fun schemas same => ?_⟩
  rw [same] at failed
  cases failed

end TypedCatalog.CommandLine.Schemas
