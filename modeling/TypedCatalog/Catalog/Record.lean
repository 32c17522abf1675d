import TypedCatalog.Value.Basic

/-! The records of a database catalog. -/
namespace TypedCatalog.Catalog

/-- The column that a foreign key points to. -/
structure Reference where
  schema : Text
  table : Text
  column : Text

structure Column where
  name : Text
  type : Text
  nullable : Bool := true
  isPrimaryKey : Bool := false
  isEnum : Bool := false
  references : Option Reference := none

/-- A table or a view. -/
structure Relation where
  name : Text
  schema : Text
  columns : List Column := []

structure Enumeration where
  name : Text
  schema : Text
  values : List Text := []

structure Parameter where
  name : Text
  type : Text
  mode : Text := "IN"
  hasDefault : Bool := false
  defaultValue : Option Text := none

structure ResultColumn where
  name : Text
  type : Text

/-- A function, a procedure or a trigger function. The kind is the shape of its result, the object
kind what the catalog calls it. Without a return type it returns nothing. -/
structure Routine where
  name : Text
  schema : Text
  kind : Text := "scalar"
  objectKind : Text := "function"
  parameters : List Parameter := []
  returnType : Option Text := none
  returnColumns : Option (List ResultColumn) := none
  description : Value := .null
  isStrict : Bool := false

/-- Records under their keys, in the order in which the keys came. -/
abbrev Register (α : Type) := List (Text × α)

structure Schema where
  name : Text
  tables : Register Relation := []
  views : Register Relation := []
  enums : Register Enumeration := []
  functions : Register Routine := []
  procedures : Register Routine := []
  triggers : Register Routine := []

structure Health where
  status : Text
  timestamp : Text := []
  version : Text := []
  uptime : Binary64 := .zero
  databaseConnected : Bool := false

structure CacheStatus where
  lastUpdated : Text := []
  totalItems : Int := 0
  tablesCached : Int := 0
  viewsCached : Int := 0
  enumsCached : Int := 0
  functionsCached : Int := 0
  proceduresCached : Int := 0
  triggersCached : Int := 0

def Reference.text (reference : Reference) : Text :=
  reference.schema ++ '.' :: reference.table ++ '.' :: reference.column

def Parameter.isInput (parameter : Parameter) : Bool :=
  parameter.mode = "IN" || parameter.mode = "INOUT"

def Parameter.isOutput (parameter : Parameter) : Bool :=
  parameter.mode = "OUT" || parameter.mode = "INOUT"

def Routine.inputs (routine : Routine) : List Parameter := routine.parameters.filter (·.isInput)

def Routine.outputs (routine : Routine) : List Parameter := routine.parameters.filter (·.isOutput)

namespace Register

variable {α : Type}

/-- Writes a record: a key that is held keeps its place. -/
def put (register : Register α) (key : Text) (record : α) : Register α :=
  match register with
  | [] => [(key, record)]
  | (k, held) :: rest => if k = key then (key, record) :: rest else (k, held) :: put rest key record

/-- Records under their names, the last of each name at the place of the first. -/
def ofRecords (name : α → Text) (records : List α) : Register α :=
  records.foldl (fun register record => put register (name record) record) []

def records (register : Register α) : List α := register.map (·.2)

def get? (register : Register α) (key : Text) : Option α :=
  (register.find? fun entry => entry.1 == key).map (·.2)

end Register

/-- The schemas of the wanted names, all if no name is wanted. -/
def Schema.select (wanted : List Text) (schemas : List Schema) : List Schema :=
  if wanted.isEmpty then schemas else schemas.filter fun schema => wanted.contains schema.name

end TypedCatalog.Catalog
