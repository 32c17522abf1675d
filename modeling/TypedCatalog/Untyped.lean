import TypedCatalog.Name
import TypedCatalog.Service.Session
import TypedCatalog.SqlType

/-! Names, types and look-ups for arguments whose kind is not known. -/
namespace TypedCatalog

/-- A function on text for any value; only text has a result. -/
def onText (f : Text → Text) : Value → Except Fault Text
  | .str text => .ok (f text)
  | _ => .error (.misuse .unsupported)

namespace Name

/-- A literal of any value that can be a key. -/
def literalOf (value : Value) : Except Fault Text :=
  if !value.isHashable then .error (.misuse .unsupported)
  else if value.isWritable then .ok (Json.write value)
  else .error (.content .unwritable)

end Name

namespace SqlType

/-- The text of a type; null is the empty text. -/
def textOf (type : Value) : Except Fault Text := if type.isNull then .ok [] else type.text

/-- The text of a type; what does not count as present is the empty text. -/
def presentText (type : Value) : Except Fault Text := if type.isTruthy then type.text else .ok []

def declaredOf (type : Value) : Except Fault Text := (textOf type).map declared

def declaredWithOf (sample type : Value) : Except Fault Text :=
  (textOf type).map (declaredWith sample)

def categoryOf (type : Value) : Except Fault Category := (presentText type).map category

def initialOf (type : Value) : Except Fault Text := (presentText type).map initial

/-- Only text can be normalized. -/
def normalizeOf (type : Value) : Except Fault Text :=
  match type with
  | .str text => .ok (normalize text)
  | type => .error (.misuse (if type.isHashable then .noMember else .unsupported))

end SqlType

namespace Session

/-- What a name of any kind leads to. Only text names something, and what cannot be a key is no
name. -/
def lookup {α : Type} (find : Text → Option α) : Value → Except Fault (Option α)
  | .str name => .ok (find name)
  | name => if name.isHashable then .ok none else .error (.misuse .unsupported)

def schemaOf (session : Session) (name : Value) : Except Fault (Option Catalog.Schema) :=
  lookup session.schema? name

/-- An object of a schema; its name is looked at only if the schema is loaded. -/
def objectOf {α : Type} (session : Session) (group : Catalog.Schema → Catalog.Register α)
    (schema name : Value) : Except Fault (Option α) := do
  match ← session.schemaOf schema with
  | none => return none
  | some schema => lookup (group schema).get? name

def tableOf (session : Session) (schema name : Value) : Except Fault (Option Catalog.Relation) :=
  session.objectOf (·.tables) schema name

def functionOf (session : Session) (schema name : Value) : Except Fault (Option Catalog.Routine) :=
  session.objectOf (·.functions) schema name

end Session
end TypedCatalog
