import TypedCatalog.Declaration.Writer
import TypedCatalog.Service.Directory
import TypedCatalog.Service.Rows

/-! A session with a service: its client and the catalog that was loaded last. -/
namespace TypedCatalog

open Catalog

structure Session where
  client : Client
  /-- The schemas under their names. -/
  catalog : Register Schema := []

namespace Session

def schemas (session : Session) : List Schema := session.catalog.records

/-- Loads the catalog; a load that fails leaves the session as it is. -/
def load (session : Session) : Exchange Session := do
  let schemas ← Directory.schemas session.client
  return { session with catalog := .ofRecords (·.name) schemas }

def schema? (session : Session) (name : Text) : Option Schema := session.catalog.get? name

def table? (session : Session) (schema table : Text) : Option Relation :=
  (session.schema? schema).bind fun schema => schema.tables.get? table

def function? (session : Session) (schema name : Text) : Option Routine :=
  (session.schema? schema).bind fun schema => schema.functions.get? name

def rows (session : Session) (schema table : Text) : Rows := .ofTable session.client schema table

/-- Calls a routine of a schema; `kind` is the part of the address that tells its kind. -/
def callRoutine (session : Session) (kind schema name : Text) (arguments : Value) :
    Exchange Value := do
  let arguments ← (arguments.orElse (.dict [])).toEntries
  session.client.call "POST" ('/' :: schema ++ '/' :: kind ++ '/' :: name) (.dict arguments) []

def executeFunction (session : Session) : (schema name : Text) → (arguments : Value) →
    Exchange Value := session.callRoutine "fn"

def executeProcedure (session : Session) : (schema name : Text) → (arguments : Value) →
    Exchange Value := session.callRoutine "proc"

def defaultDirectory : Path := ⟨false, ["src", "gen"]⟩

/-- Writes the declarations of the loaded schemas. -/
def generateTypes (session : Session) (directory : Path) (tree : FileTree) :
    Except Fault Nat × FileTree :=
  if session.catalog.isEmpty then (.error (.service .notInitialized), tree)
  else
    let done := Declaration.generate (.parallel none) directory session.schemas tree
    (done.result, done.files)

end Session
end TypedCatalog
