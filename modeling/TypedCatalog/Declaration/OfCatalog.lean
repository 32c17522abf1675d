import TypedCatalog.Catalog.Record
import TypedCatalog.Declaration.Basic
import TypedCatalog.SqlType

/-! The declarations that stand for catalog objects. -/
namespace TypedCatalog

open Catalog

/-- What is to be said about a column: its key, what it refers to, and that it holds an
enumeration. -/
def Catalog.Column.remarks (column : Column) : Text :=
  let key : List Text := if column.isPrimaryKey then ["Primary key"] else []
  let target := column.references.toList.map fun reference : Reference =>
    "References " ++ reference.text
  let enumeration : List Text := if column.isEnum then ["Enum type"] else []
  Text.join ". " (key ++ target ++ enumeration)

namespace Declaration

def orNull (type : Text) : Text := type ++ " | null"

def columnProperty (column : Column) : Property :=
  { name := column.name, type := SqlType.declared column.type, isOptional := column.nullable }

/-- The rows of a table. -/
def ofTable (table : Relation) : Declaration :=
  interface (Name.pascal table.name) <| table.columns.map fun column =>
    { columnProperty column with comment := column.remarks }

/-- The rows of a view, with a name apart from that of a table. -/
def ofView (view : Relation) : Declaration :=
  interface (Name.pascal view.name ++ "View") (view.columns.map columnProperty)

def pagination : List Property :=
  [⟨"limit", "number", true, []⟩, ⟨"offset", "number", true, []⟩, ⟨"order_by", "string", true, []⟩,
    ⟨"order_dir", "\"asc\" | \"desc\"", true, []⟩]

def filterProperty (column : Column) : Property :=
  { name := column.name, type := orNull (SqlType.declared column.type), isOptional := true }

/-- The parameters of a query on a table. -/
def ofQuery (table : Relation) : Declaration :=
  interface (Name.pascal table.name ++ "QueryParams")
    (pagination ++ table.columns.map filterProperty)

def ofEnumeration (enumeration : Enumeration) : Declaration :=
  .enumeration (Name.pascal enumeration.name) <|
    enumeration.values.map fun value => (Name.enumMember value, value)

def inputProperty (parameter : Parameter) : Property :=
  { name := parameter.name, type := SqlType.declared parameter.type,
    isOptional := parameter.hasDefault }

def outputProperty (parameter : Parameter) : Property :=
  { name := parameter.name, type := SqlType.declared parameter.type }

def resultProperty (column : ResultColumn) : Property :=
  { name := column.name, type := SqlType.declared column.type }

/-- The return type of a routine that returns something. -/
def returned? (routine : Routine) : Option Text :=
  routine.returnType.filter fun type =>
    SqlType.normalize type ≠ [] && SqlType.normalize type ≠ "void".toList

/-- The parameters of a routine, if it takes any. -/
def parametersOf (base : Text) (routine : Routine) : List Declaration :=
  if routine.inputs.isEmpty then []
  else [interface (base ++ "Params") (routine.inputs.map inputProperty)]

/-- The result of a routine: its result columns, else its return type, else its outputs. -/
def resultOf (base : Text) (routine : Routine) : List Declaration :=
  let result := base ++ "Result"
  match routine.returnColumns.getD [] with
  | column :: columns =>
    let row := base ++ "ResultRow"
    let type :=
      if routine.kind = "set" || routine.kind = "table" then SqlType.arrayOf row else orNull row
    [interface row ((column :: columns).map resultProperty), synonym result type]
  | [] =>
    match returned? routine with
    | some type =>
      let type := SqlType.declared type
      [synonym result (if routine.kind = "set" then SqlType.arrayOf type else orNull type)]
    | none =>
      if routine.outputs.isEmpty then [synonym result "void"]
      else [interface result (routine.outputs.map outputProperty)]

/-- What it takes to call a routine; the suffix tells procedures from functions. -/
def ofRoutine (suffix : Text) (routine : Routine) : List Declaration :=
  let base := Name.pascal routine.name ++ suffix
  parametersOf base routine ++ resultOf base routine

end Declaration
end TypedCatalog
