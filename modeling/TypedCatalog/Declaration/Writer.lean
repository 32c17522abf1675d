import TypedCatalog.Declaration.Module
import TypedCatalog.File.Tree

/-! Writing generated modules: one file for each schema and an index of all. -/
namespace TypedCatalog.Declaration

open Catalog

def indexName : Text := "index.ts"

def moduleFile (schema : Schema) : Text := Name.moduleName schema.name ++ ".ts"

/-- The first schema whose module name an earlier one has, behind that one. -/
def clash? (before : List Schema) : List Schema → Option (Schema × Schema)
  | [] => none
  | schema :: schemas =>
    match before.find? fun owner => Name.moduleName owner.name == Name.moduleName schema.name with
    | some owner => some (owner, schema)
    | none => clash? (before ++ [schema]) schemas

/-- How the modules are written: one after another until one fails, or all of them by workers. -/
inductive Mode where
  | sequential
  | parallel (workers : Option Int)

/-- What comes of a module: `refused` if it cannot be rendered, `cut` if it cannot be encoded or its
file takes no more than its first bytes, else `whole`. A text with a lone surrogate has no encoding
and is cut off at 0. -/
inductive Rendering where
  | refused (fault : Fault)
  | cut (size : Nat) (fault : Fault)
  | whole

abbrev Renderer := Schema → Rendering

/-- The bytes of a module. -/
def moduleBytes (schema : Schema) : List UInt8 := Text.Utf8.encode (schemaModule schema)

/-- The bytes that come into the file of a module. -/
def Rendering.bytes (rendering : Rendering) (schema : Schema) : List UInt8 :=
  match rendering with
  | .refused _ => []
  | .cut size _ => (moduleBytes schema).take size
  | .whole => moduleBytes schema

/-- What a run did: the files after it, the modules that it wrote, and how it ended. -/
structure Generation where
  files : FileTree
  /-- Whether the output directory was there in the end. -/
  hasStarted : Bool := false
  written : List Schema := []
  result : Except Fault Nat

/-- Renders the module of a schema; a fault names the schema. -/
def renderModule (render : Renderer) (schema : Schema) : Except Fault Unit :=
  match render schema with
  | .refused fault => .error (.moduleOf schema.name fault)
  | _ => .ok ()

def openModule (directory : Path) (schema : Schema) (tree : FileTree) :
    Except Fault (Location × FileTree) :=
  (tree.openFile (directory.below (moduleFile schema))).mapError (.moduleOf schema.name)

/-- Writes the module of a schema into its open file. -/
def fillModule (render : Renderer) (schema : Schema) (file : Location) : FileAction Unit :=
  fun tree =>
  let tree := tree.fill file ((render schema).bytes schema)
  match render schema with
  | .cut _ fault => (.error (.moduleOf schema.name fault), tree)
  | _ => (.ok (), tree)

def writeModule (render : Renderer) (directory : Path) (schema : Schema) : FileAction Unit :=
  fun tree =>
  match renderModule render schema with
  | .error fault => (.error fault, tree)
  | .ok () =>
    match openModule directory schema tree with
    | .error fault => (.error fault, tree)
    | .ok (file, tree) => fillModule render schema file tree

/-- Files after some modules, the modules that were written, and what went wrong first. -/
structure Progress where
  files : FileTree
  written : List Schema := []
  failure : Option Fault := none

def Progress.write (render : Renderer) (directory : Path) (progress : Progress) (schema : Schema) :
    Progress :=
  match writeModule render directory schema progress.files with
  | (.ok (), files) => { progress with files, written := progress.written ++ [schema] }
  | (.error fault, files) => { progress with files, failure := progress.failure <|> some fault }

/-- Writes modules up to the first that fails. -/
def writeUntilFailure (render : Renderer) (directory : Path) (progress : Progress) :
    List Schema → Progress
  | [] => progress
  | schema :: schemas =>
    let progress := progress.write render directory schema
    if progress.failure.isSome then progress
    else writeUntilFailure render directory progress schemas

/-- Writes all modules, whatever fails. -/
def writeAll (render : Renderer) (directory : Path) (progress : Progress) (schemas : List Schema) :
    Progress := schemas.foldl (Progress.write render directory) progress

/-- A way to write the modules of schemas into a directory. -/
abbrev Writing := Mode → Path → List Schema → FileTree → Progress

def writeModules (render : Renderer) : Writing := fun mode directory schemas tree =>
  let start : Progress := { files := tree }
  match mode with
  | .sequential => writeUntilFailure render directory start schemas
  | .parallel workers =>
    if schemas.length ≤ 1 then writeUntilFailure render directory start schemas
    else if workers.any (· ≤ 0) then { start with failure := some (.content .workers) }
    else writeAll render directory start schemas

/-- How a run ends that came to writing modules. -/
def Progress.ended (progress : Progress) (files : FileTree) (result : Except Fault Nat) :
    Generation :=
  { files, hasStarted := true, written := progress.written, result }

/-- Writes the index if all modules could be written. -/
def finish (directory : Path) (schemas : List Schema) (progress : Progress) : Generation :=
  match progress.failure with
  | some fault => progress.ended progress.files (.error fault)
  | none =>
    match progress.files.writeText (directory.below indexName) (indexModule schemas) with
    | .error fault => progress.ended progress.files (.error fault)
    | .ok files => progress.ended files (.ok schemas.length)

/-- Writes a module for each schema in some way, and the index behind them. -/
def generateBy (writing : Writing) (mode : Mode) (directory : Path) (schemas : List Schema)
    (tree : FileTree) : Generation :=
  match clash? [] schemas with
  | some (owner, schema) =>
    { files := tree
      result := .error (.sameModule owner.name schema.name (Name.moduleName schema.name)) }
  | none =>
    match FileTree.makeDirectory directory tree with
    | (.error fault, files) => { files, result := .error fault }
    | (.ok (), files) => finish directory schemas (writing mode directory schemas files)

/-- The renderer of the program, to which all modules come whole. -/
def renderFully : Renderer := fun _ => .whole

/-- Writes a module for each schema, and the index if all of them could be written. -/
def generate : Mode → Path → List Schema → FileTree → Generation :=
  generateBy (writeModules renderFully)

end TypedCatalog.Declaration
