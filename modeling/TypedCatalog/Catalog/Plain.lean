import TypedCatalog.Catalog.Record
import TypedCatalog.Value.Fields

/-! Records as plain data, with one name for each field, and records from such data. Unlike
documents, plain data has no other spellings, and nothing in it is changed. -/
namespace TypedCatalog.Catalog

open Value

def textOrNull (text : Option Text) : Value := (text.map str).getD .null

def listOf {α : Type} (plain : α → Value) (items : List α) : Value := .list (items.map plain)

def Reference.plain (r : Reference) : Value :=
  .ofFields [("schema", .str r.schema), ("table", .str r.table), ("column", .str r.column)]

def Column.plain (c : Column) : Value :=
  .ofFields [("name", .str c.name), ("type", .str c.type), ("nullable", .bool c.nullable),
    ("is_primary_key", .bool c.isPrimaryKey), ("is_enum", .bool c.isEnum),
    ("references", (c.references.map Reference.plain).getD .null)]

def Relation.plain (r : Relation) : Value :=
  .ofFields [("name", .str r.name), ("schema", .str r.schema),
    ("columns", listOf Column.plain r.columns)]

def Enumeration.plain (e : Enumeration) : Value :=
  .ofFields [("name", .str e.name), ("schema", .str e.schema), ("values", listOf .str e.values)]

def Parameter.plain (p : Parameter) : Value :=
  .ofFields [("name", .str p.name), ("type", .str p.type), ("mode", .str p.mode),
    ("has_default", .bool p.hasDefault), ("default_value", textOrNull p.defaultValue)]

def ResultColumn.plain (c : ResultColumn) : Value :=
  .ofFields [("name", .str c.name), ("type", .str c.type)]

def Routine.plain (r : Routine) : Value :=
  .ofFields [("name", .str r.name), ("schema", .str r.schema), ("kind", .str r.kind),
    ("object_kind", .str r.objectKind), ("parameters", listOf Parameter.plain r.parameters),
    ("return_type", textOrNull r.returnType),
    ("return_columns", (r.returnColumns.map (listOf ResultColumn.plain)).getD .null),
    ("description", r.description), ("is_strict", .bool r.isStrict)]

def Register.plain {α : Type} (plain : α → Value) (group : Register α) : Value :=
  .ofFields (group.map fun (key, record) => (key, plain record))

def Schema.plain (s : Schema) : Value :=
  .ofFields [("name", .str s.name), ("tables", s.tables.plain Relation.plain),
    ("views", s.views.plain Relation.plain), ("enums", s.enums.plain Enumeration.plain),
    ("functions", s.functions.plain Routine.plain),
    ("procedures", s.procedures.plain Routine.plain), ("triggers", s.triggers.plain Routine.plain)]

def Health.plain (h : Health) : Value :=
  .ofFields [("status", .str h.status), ("timestamp", .str h.timestamp),
    ("version", .str h.version), ("uptime", .float h.uptime), ("database_connected", .bool h.databaseConnected)]

def CacheStatus.plain (c : CacheStatus) : Value :=
  .ofFields [("last_updated", .str c.lastUpdated), ("total_items", .int c.totalItems),
    ("tables_cached", .int c.tablesCached), ("views_cached", .int c.viewsCached),
    ("enums_cached", .int c.enumsCached), ("functions_cached", .int c.functionsCached),
    ("procedures_cached", .int c.proceduresCached), ("triggers_cached", .int c.triggersCached)]

def Reference.ofPlain (data : Value) : Except Fault Reference := do
  let fields ← data.fields ["schema", "table", "column"] ["schema", "table", "column"]
  return ⟨fields.textField "schema", fields.textField "table", fields.textField "column"⟩

def Column.ofPlain (data : Value) : Except Fault Column := do
  let fields ← data.fields
    ["name", "type", "nullable", "is_primary_key", "is_enum", "references"] ["name", "type"]
  return {
    name := fields.textField "name"
    type := fields.textField "type"
    nullable := fields.flagField "nullable" true
    isPrimaryKey := fields.flagField "is_primary_key"
    isEnum := fields.flagField "is_enum"
    references := ← Entries.optionField Reference.ofPlain fields "references" }

def Relation.ofPlain (data : Value) : Except Fault Relation := do
  let fields ← data.fields ["name", "schema", "columns"] ["name", "schema"]
  let columns ← Entries.listField Column.ofPlain fields "columns"
  return ⟨fields.textField "name", fields.textField "schema", columns⟩

def Enumeration.ofPlain (data : Value) : Except Fault Enumeration := do
  let fields ← data.fields ["name", "schema", "values"] ["name", "schema"]
  let values ← Entries.listField (fun value => .ok value.shown) fields "values"
  return ⟨fields.textField "name", fields.textField "schema", values⟩

def Parameter.ofPlain (data : Value) : Except Fault Parameter := do
  let fields ← data.fields ["name", "type", "mode", "has_default", "default_value"] ["name", "type"]
  return {
    name := fields.textField "name"
    type := fields.textField "type"
    mode := fields.textField "mode" "IN"
    hasDefault := fields.flagField "has_default"
    defaultValue := ← Entries.optionField (fun value => .ok value.shown) fields "default_value" }

def ResultColumn.ofPlain (data : Value) : Except Fault ResultColumn := do
  let fields ← data.fields ["name", "type"] ["name", "type"]
  return ⟨fields.textField "name", fields.textField "type"⟩

def Routine.ofPlain (data : Value) : Except Fault Routine := do
  let fields ← data.fields
    ["name", "schema", "kind", "object_kind", "parameters", "return_type", "return_columns",
      "description", "is_strict"] ["name", "schema"]
  let columns := fun (data : Value) => do (← data.items).mapM ResultColumn.ofPlain
  return {
    name := fields.textField "name"
    schema := fields.textField "schema"
    kind := fields.textField "kind" "scalar"
    objectKind := fields.textField "object_kind" "function"
    parameters := ← Entries.listField Parameter.ofPlain fields "parameters"
    returnType := ← Entries.optionField (fun value => .ok value.shown) fields "return_type"
    returnColumns := ← Entries.optionField columns fields "return_columns"
    description := (lookup? "description" fields).getD .null
    isStrict := fields.flagField "is_strict" }

def Schema.ofPlain (data : Value) : Except Fault Schema := do
  let fields ← data.fields
    ["name", "tables", "views", "enums", "functions", "procedures", "triggers"] ["name"]
  return {
    name := fields.textField "name"
    tables := ← Entries.mapField Relation.ofPlain fields "tables"
    views := ← Entries.mapField Relation.ofPlain fields "views"
    enums := ← Entries.mapField Enumeration.ofPlain fields "enums"
    functions := ← Entries.mapField Routine.ofPlain fields "functions"
    procedures := ← Entries.mapField Routine.ofPlain fields "procedures"
    triggers := ← Entries.mapField Routine.ofPlain fields "triggers" }

def Health.ofPlain (data : Value) : Except Fault Health := do
  let fields ← data.fields ["status", "timestamp", "version", "uptime", "database_connected"]
    ["status"]
  let uptime ← Entries.optionField toBinary64 fields "uptime"
  return {
    status := fields.textField "status"
    timestamp := fields.textField "timestamp"
    version := fields.textField "version"
    uptime := uptime.getD .zero
    databaseConnected := fields.flagField "database_connected" }

def CacheStatus.ofPlain (data : Value) : Except Fault CacheStatus := do
  let fields ← data.fields ["last_updated", "total_items", "tables_cached", "views_cached",
    "enums_cached", "functions_cached", "procedures_cached", "triggers_cached"] []
  let count := fun (name : Text) => do
    return (← Entries.optionField toInteger fields name).getD 0
  return {
    lastUpdated := fields.textField "last_updated"
    totalItems := ← count "total_items"
    tablesCached := ← count "tables_cached"
    viewsCached := ← count "views_cached"
    enumsCached := ← count "enums_cached"
    functionsCached := ← count "functions_cached"
    proceduresCached := ← count "procedures_cached"
    triggersCached := ← count "triggers_cached" }

end TypedCatalog.Catalog
