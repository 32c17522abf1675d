import TypedCatalog.Catalog.Plain
import TypedCatalog.Catalog.Snapshot
import TypedCatalog.CommandLine.World
import TypedCatalog.Json.Writer
import TypedCatalog.Service.Directory
import TypedCatalog.Yaml.Writer

/-! The command that fetches the schemas of a service and prints them or saves a snapshot. -/
namespace TypedCatalog.CommandLine.Schemas

open Catalog

def interface : Interface where
  switches := [⟨"--url", .text⟩, ⟨"--schema", .text⟩,
    ⟨"--format", .oneOf ["summary", "yaml", "json"]⟩, ⟨"--output", .text⟩]

/-- The text of a snapshot, in the format that the suffix of its path names. -/
def snapshotText (path : Path) (schemas : List Schema) : Text :=
  let data := Value.ofFields [("schemas", .list (schemas.map Schema.plain))]
  if path.suffix = Snapshot.jsonSuffix then Json.write data else Yaml.write data

def summary (schema : Schema) : Text :=
  Text.padRight 20 schema.name ++ " tables=" ++ Text.ofNat schema.tables.length ++ " views=" ++
    Text.ofNat schema.views.length ++ " enums=" ++ Text.ofNat schema.enums.length ++
    " functions=" ++ Text.ofNat schema.functions.length ++ " procedures=" ++
    Text.ofNat schema.procedures.length ++ " triggers=" ++ Text.ofNat schema.triggers.length

def printed (format : Text) (schemas : List Schema) (world : World) : World :=
  let documents := Value.list (schemas.map Schema.plain)
  if format = "json".toList then world.print (Json.write documents)
  else if format = "yaml".toList then world.print (Yaml.write documents)
  else schemas.foldl (fun world schema => world.print (summary schema)) world

/-- Saves a snapshot; its directory is made if it is missing. -/
def save (path : Path) (schemas : List Schema) : FileAction Unit := do
  FileTree.makeDirectory path.parent
  FileAction.change fun tree => tree.writeText path (snapshotText path schemas)

def finish (arguments : Arguments) (schemas : List Schema) (world : World) : Ending × World :=
  match (arguments.last? "--output").map Path.ofText with
  | none => (.returned (some 0), printed ((arguments.last? "--format").getD []) schemas world)
  | some path =>
    match save path schemas world.files with
    | (.error fault, files) => (.fault fault, { world with files })
    | (.ok (), files) =>
      (.returned (some 0), { world with files }.print
        ("Saved " ++ Text.ofNat schemas.length ++ " schema(s) -> " ++ path.text))

def run (arguments : Arguments) (world : World) : Ending × World :=
  let client := Client.ofUrl (urlOf arguments world)
  match Client.closing (Directory.schemas client) world.service with
  | (.error (.service fault), service) =>
    (.returned (some 1), { world with service }.complain (errorText (.service fault)))
  | (.error fault, service) => (.fault fault, { world with service })
  | (.ok schemas, service) =>
    finish arguments (Schema.select (arguments.all "--schema") schemas) { world with service }

def command (texts : List Text) : World → Ending × World :=
  withArguments "schemas" interface texts run

end TypedCatalog.CommandLine.Schemas
