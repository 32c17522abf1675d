import TypedCatalog.Catalog.Cache
import TypedCatalog.CommandLine.World
import TypedCatalog.Declaration.Writer
import TypedCatalog.Service.Directory

/-! The command that writes declarations for the schemas of snapshots or of a service. -/
namespace TypedCatalog.CommandLine.Codegen

open Catalog

def interface : Interface where
  switches := [⟨"--url", .text⟩, ⟨"--output", .text⟩, ⟨"--schema", .text⟩, ⟨"--no-parallel", .flag⟩,
    ⟨"--workers", .number⟩, ⟨"--verbose", .flag⟩]
  takesOperands := true

/-- Why there is nothing to generate from. -/
inductive Stop where
  | fault (fault : Fault)
  | noFiles
  | noSchemas

/-- Schemas and where they come from. -/
structure Loaded where
  schemas : List Schema
  source : Text

/-- The schemas of files, with a note for each file that was read. -/
def readFiles (tree : FileTree) : List Path → SchemaCache → List Note →
    Except Fault (List Schema) × List Note
  | [], _, notes => (.ok [], notes)
  | path :: paths, cache, notes =>
    match cache.get tree path with
    | (.error fault, _) => (.error fault, notes)
    | (.ok schemas, cache) =>
      let (rest, notes) := readFiles tree paths cache (notes ++ [.parsed schemas.length path.text])
      (rest.map (schemas ++ ·), notes)

def fromFiles (tree : FileTree) (paths : List Path) : Except Stop Loaded × List Note :=
  match Snapshot.collect tree paths with
  | .error fault => (.error (.fault fault), [])
  | .ok [] => (.error .noFiles, [])
  | .ok files =>
    match readFiles tree files {} [] with
    | (.error fault, notes) => (.error (.fault fault), notes)
    | (.ok schemas, notes) =>
      (.ok ⟨schemas, Text.ofNat files.length ++ " metadata file(s)"⟩, notes)

/-- The schemas of the service at an address. -/
def fromService (url : Text) (service : Service) : Except Stop Loaded × Service :=
  match Client.closing (Directory.schemas (.ofUrl url)) service with
  | (.error fault, service) => (.error (.fault fault), service)
  | (.ok schemas, service) => (.ok ⟨schemas, url⟩, service)

/-- The schemas that are wanted, which must be some. -/
def select (wanted : List Text) (loaded : Loaded) : Except Stop Loaded :=
  let schemas := Schema.select wanted loaded.schemas
  if schemas.isEmpty then .error .noSchemas else .ok { loaded with schemas }

/-- The schemas that the arguments ask for. -/
def load (arguments : Arguments) (world : World) : Except Stop Loaded × World :=
  let isVerbose := arguments.has "--verbose"
  let (loaded, world) :=
    if arguments.operands.isEmpty then
      let (loaded, service) := fromService (urlOf arguments world) world.service
      (loaded, { world with service }.report isVerbose service.notes)
    else
      let (loaded, notes) := fromFiles world.files (arguments.operands.map .ofText)
      (loaded, world.report isVerbose notes)
  (loaded >>= select (arguments.all "--schema"), world)

def ending : Stop → Ending
  | .noFiles => .quit "No metadata files found"
  | .noSchemas => .quit "No schemas to generate"
  | .fault fault => if isReported fault then .quit (errorText fault) else .fault fault

def defaultOutput : Path := ⟨false, ["src", "gen"]⟩

def mode (arguments : Arguments) : Declaration.Mode :=
  if arguments.has "--no-parallel" then .sequential
  else .parallel <| match (arguments.last? "--workers").map Value.integerIn with
    | some (.ok workers) => some workers
    | _ => none

/-- What a run reports. -/
def notes (directory : Path) (done : Declaration.Generation) : List Note :=
  if !done.hasStarted then []
  else
    let modules := done.written.map fun schema =>
      Note.moduleWritten schema.name (directory.below (Declaration.moduleFile schema)).text
    let finished := match done.result with
      | .ok count => [.indexWritten (directory.below Declaration.indexName).text, .generated count]
      | .error _ => []
    .generating directory.text :: modules ++ finished

/-- Writes the declarations of schemas and says where. -/
def write (writing : Declaration.Writing) (arguments : Arguments) (loaded : Loaded)
    (world : World) : Ending × World :=
  let output := ((arguments.last? "--output").map Path.ofText).getD defaultOutput
  match world.files.resolve output with
  | .error fault => (ending (.fault fault), world)
  | .ok directory =>
    let done :=
      Declaration.generateBy writing (mode arguments) directory loaded.schemas world.files
    let world := { world with files := done.files }.report (arguments.has "--verbose")
      (notes directory done)
    match done.result with
    | .error fault => (ending (.fault fault), world)
    | .ok count =>
      (.returned none, world.print ("Generated " ++ Text.ofNat count ++ " schema module(s) from " ++
        loaded.source ++ " into " ++ directory.text))

def run (writing : Declaration.Writing) (arguments : Arguments) (world : World) :
    Ending × World :=
  match load arguments world with
  | (.error stop, world) => (ending stop, world)
  | (.ok loaded, world) => write writing arguments loaded world

/-- The command by itself, with a way to write modules. -/
def commandBy (writing : Declaration.Writing) (texts : List Text) : World → Ending × World :=
  withArguments "codegen" interface texts (run writing)

/-- The command by itself. -/
def command : List Text → World → Ending × World :=
  commandBy (Declaration.writeModules Declaration.renderFully)

end TypedCatalog.CommandLine.Codegen
