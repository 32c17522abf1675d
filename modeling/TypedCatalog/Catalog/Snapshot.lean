import TypedCatalog.Catalog.Reader
import TypedCatalog.File.Tree
import TypedCatalog.Yaml.Reader

/-! Snapshots: files that hold schema documents, in JSON or YAML by their suffix. -/
namespace TypedCatalog.Snapshot

open Catalog

def jsonSuffix : Text := ".json"

def suffixes : List Text := [".yaml", ".yml", jsonSuffix]

/-- The document that a text holds. -/
def read (path : Path) (text : Text) : Except Fault Value :=
  if path.suffix = jsonSuffix then
    match Json.read text with
    | .ok data => .ok data
    | .error (.problem problem position) => .error (.document path.text (.json problem position))
    | .error (.tooLong digits) => .error (.content (.tooLong digits))
  else
    match Yaml.read text with
    | .ok data => .ok data
    | .error (.problem problem) => .error (.document path.text (.yaml problem))
    | .error (.fault fault) => .error fault

/-- The schema documents of a snapshot: a list of them, one alone, or a list under a key. -/
def documents (data : Value) : Option (List Value) :=
  let held := match data with
    | .dict entries => (Value.lookup? "schemas" entries).getD (.list [data])
    | data => data
  match held with
  | .list items => if items.all Value.isDict then some items else none
  | _ => none

/-- The schema documents of a file. -/
def load (tree : FileTree) (path : Path) : Except Fault (List Value) :=
  match tree.readText path with
  | .error (.file problem text) => .error (.unreadable path.text (.file problem text))
  | .error fault => .error fault
  | .ok text =>
    match read path text with
    | .error fault => .error fault
    | .ok data =>
      match documents data with
      | none => .error (.root path.text)
      | some documents => .ok documents

/-- A schema of a file; a fault in it names the file. -/
def schemaIn (path : Path) (document : Value) : Except Fault Schema :=
  match Schema.read document with
  | .error (.record fault) => .error (.recordIn path.text fault)
  | result => result

/-- The schemas of a file. -/
def parse (tree : FileTree) (path : Path) : Except Fault (List Schema) :=
  match load tree path with
  | .error fault => .error fault
  | .ok documents => documents.mapM (schemaIn path)

def isSnapshotName (name : Text) : Bool :=
  suffixes.contains (Text.lower (Path.suffixOf name))

/-- Whether a file stands at a location, or where the link at that location leads. -/
def isFile (tree : FileTree) (location : Location) : Bool :=
  match tree.land location with
  | .error _ => false
  | .ok place =>
    match tree.node? place with
    | some (.file ..) => true
    | _ => false

/-- The snapshots directly in a directory, in the order of their names. -/
def inDirectory (tree : FileTree) (location : Location) : List Path :=
  let names := (tree.namesBelow location).filter fun name =>
    isSnapshotName name && isFile tree (location ++ [name])
  (names.mergeSort Text.le).map fun name => .ofLocation (location ++ [name])

/-- The files that a path stands for: itself, or the snapshots in it. -/
def filesAt (tree : FileTree) (path : Path) : Except Fault (List Path) := do
  let resolved ← tree.resolve path
  match ← tree.find resolved with
  | none => throw (.noSource path.text)
  | some (.file ..) => return [resolved]
  | some .directory => return inDirectory tree resolved.names

/-- Each member at its first place only. -/
def distinct (seen : List Path) : List Path → List Path
  | [] => []
  | path :: paths =>
    if path ∈ seen then distinct seen paths else path :: distinct (path :: seen) paths

/-- The files that paths stand for, each once. -/
def collect (tree : FileTree) (paths : List Path) : Except Fault (List Path) := do
  return distinct [] (← paths.mapM (filesAt tree)).flatten

end TypedCatalog.Snapshot
