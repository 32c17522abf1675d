import TypedCatalog.Catalog.Record
import TypedCatalog.Text.Case
import TypedCatalog.Value.Access

/-! Catalog records from decoded documents. Several fields have more than one spelling; the first
that is held and not null counts. -/
namespace TypedCatalog.Catalog

/-- The text of a field, or the empty text without the field. -/
def textOf (entries : Value.Entries) (name : Text) : Except Fault Text :=
  ((Value.lookup? name entries).getD (.str [])).text

/-- The text of a value that may be missing. -/
def textIfHeld : Option Value → Except Fault (Option Text)
  | none => .ok none
  | some value => value.text.map some

/-- The field of a mapping under the first of its spellings. -/
def fieldOf (entries : Value.Entries) : (spellings : List Text) → Option Value
  | [] => none
  | name :: names =>
    match Value.lookup? name entries with
    | none | some .null => fieldOf entries names
    | some value => some value

def flagOf (entries : Value.Entries) (spellings : List Text) : Bool :=
  ((fieldOf entries spellings).map Value.isTruthy).getD false

/-- A field that a record cannot do without. -/
def required (kind : Text) (entries : Value.Entries) (key : Text) : Except Fault Text :=
  match (Value.lookup? key entries).getD .null with
  | .null | .str [] => do
    let field ← ((Value.lookup? "name" entries).getD (.str key)).text
    throw (.record ⟨kind, .missing key, field⟩)
  | value => value.text

/-- The entries of a document that holds a record. -/
def mapping (kind : Text) (data : Value) : Except Fault Value.Entries :=
  match data with
  | .dict entries => .ok entries
  | _ => .error (.record ⟨kind, .notMapping, "name"⟩)

/-- Reads every member of a list that may be missing. -/
def readAll {α : Type} (read : Value → Except Fault α) (data : Option Value) :
    Except Fault (List α) := do
  match data with
  | none => return []
  | some data => if data.isTruthy then (← data.items).mapM read else return []

def Reference.read (data : Value) : Except Fault Reference := do
  let entries ← data.entries
  let schema ← textOf entries "schema"
  let table ← textOf entries "table"
  let column ← textOf entries "column"
  return ⟨schema, table, column⟩

def readReference (data : Option Value) : Except Fault (Option Reference) :=
  match data with
  | none => .ok none
  | some data => if data.isTruthy then (Reference.read data).map some else .ok none

def Column.read (data : Value) : Except Fault Column := do
  let entries ← mapping "column" data
  let name ← required "column" entries "name"
  let type ← required "column" entries "type"
  let references ← readReference (Value.lookup? "references" entries)
  return {
    name, type, references
    nullable := ((Value.lookup? "nullable" entries).getD (.bool true)).isTruthy
    isPrimaryKey := flagOf entries ["is_primary_key", "isPrimaryKey", "is_pk"]
    isEnum := flagOf entries ["is_enum", "isEnum"] }

def Relation.read (kind : Text) (data : Value) : Except Fault Relation := do
  let entries ← mapping kind data
  let name ← required kind entries "name"
  let schema ← textOf entries "schema"
  let columns ← readAll Column.read (Value.lookup? "columns" entries)
  return ⟨name, schema, columns⟩

def readTable : Value → Except Fault Relation := Relation.read "table"

def readView : Value → Except Fault Relation := Relation.read "view"

def Enumeration.read (data : Value) : Except Fault Enumeration := do
  let entries ← mapping "enum" data
  let name ← required "enum" entries "name"
  let schema ← textOf entries "schema"
  let values ← readAll Value.text (Value.lookup? "values" entries)
  return ⟨name, schema, values⟩

/-- The mode of a parameter in capitals; one without a mode is an input. -/
def modeOf (entries : Value.Entries) : Except Fault Text :=
  match Value.lookup? "mode" entries with
  | none => .ok "IN"
  | some mode => if mode.isTruthy then mode.text.map Text.upper else .ok "IN"

def Parameter.read (data : Value) : Except Fault Parameter := do
  let defaultValue ← data.pick ["default_value", "defaultValue"]
  let entries ← mapping "parameter" data
  let name ← required "parameter" entries "name"
  let type ← required "parameter" entries "type"
  let mode ← modeOf entries
  let defaultValue ← textIfHeld defaultValue
  return {
    name, type, mode, defaultValue
    hasDefault := flagOf entries ["has_default", "hasDefault"] }

def ResultColumn.read (data : Value) : Except Fault ResultColumn := do
  let entries ← mapping "return column" data
  let name ← required "return column" entries "name"
  let type ← required "return column" entries "type"
  return ⟨name, type⟩

/-- The small letters of a field's text, or a default. -/
def loweredField (entries : Value.Entries) (spellings : List Text) (default : Text) :
    Except Fault Text :=
  ((fieldOf entries spellings).getD (.str default)).text.map Text.lower

def Routine.read (data : Value) : Except Fault Routine := do
  let columns ← data.pick ["return_columns", "returnColumns"]
  let returnType ← data.pick ["return_type", "returnType"]
  let entries ← mapping "function" data
  let name ← required "function" entries "name"
  let schema ← textOf entries "schema"
  let kind ← loweredField entries ["kind", "type"] "scalar"
  let objectKind ← loweredField entries ["object_kind", "objectType", "object_type"] "function"
  let parameters ← readAll Parameter.read (Value.lookup? "parameters" entries)
  let returnType ← textIfHeld returnType
  let returnColumns ← match columns with
    | none => pure none
    | some columns => some <$> ((← columns.items).mapM ResultColumn.read)
  return {
    name, schema, kind, objectKind, parameters, returnType, returnColumns
    description := (fieldOf entries ["description"]).getD .null
    isStrict := flagOf entries ["is_strict", "isStrict"] }

/-- The records of a list, or the values of a mapping. -/
def membersOf (data : Value) : Except Fault (List Value) :=
  match data with
  | .dict entries => .ok (entries.map (·.2))
  | data => data.items

def readGroup {α : Type} (read : Value → Except Fault α) (name : α → Text)
    (data : Option Value) : Except Fault (Register α) := do
  match data with
  | none => return []
  | some data =>
    if data.isTruthy then return .ofRecords name (← (← membersOf data).mapM read) else return []

def Schema.read (data : Value) : Except Fault Schema := do
  let entries ← mapping "schema" data
  let name ← required "schema" entries "name"
  let group := fun {α : Type} (read : Value → Except Fault α) (name : α → Text) (key : Text) =>
    readGroup read name (Value.lookup? key entries)
  return {
    name
    tables := ← group readTable (·.name) "tables"
    views := ← group readView (·.name) "views"
    enums := ← group Enumeration.read (·.name) "enums"
    functions := ← group Routine.read (·.name) "functions"
    procedures := ← group Routine.read (·.name) "procedures"
    triggers := ← group Routine.read (·.name) "triggers" }

def Health.read (data : Value) : Except Fault Health := do
  let entries ← data.entries
  let status ← textOf entries "status"
  let timestamp ← textOf entries "timestamp"
  let version ← textOf entries "version"
  let uptime ← match Value.lookup? "uptime" entries with
    | none => pure .zero
    | some uptime => if uptime.isTruthy then uptime.toBinary64 else pure .zero
  return {
    status, timestamp, version, uptime
    databaseConnected := flagOf entries ["database_connected", "databaseConnected"] }

def CacheStatus.read (data : Value) : Except Fault CacheStatus := do
  let count := fun (spellings : List Text) => do
    match ← data.pick spellings with
    | none => pure 0
    | some value => value.toInteger
  let lastUpdated ← data.pick ["last_updated", "lastUpdated"]
  let lastUpdated ← (lastUpdated.getD (.str [])).text
  return {
    lastUpdated
    totalItems := ← count ["total_items", "totalItems"]
    tablesCached := ← count ["tables_cached", "tablesCached"]
    viewsCached := ← count ["views_cached", "viewsCached"]
    enumsCached := ← count ["enums_cached", "enumsCached"]
    functionsCached := ← count ["functions_cached", "functionsCached"]
    proceduresCached := ← count ["procedures_cached", "proceduresCached"]
    triggersCached := ← count ["triggers_cached", "triggersCached"] }

end TypedCatalog.Catalog
