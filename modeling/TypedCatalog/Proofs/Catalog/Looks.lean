import TypedCatalog.Proofs.Catalog.Faults

/-! The dependence of record readers on their entries. `Look` lists the accesses of a reader;
mappings that agree on all looks of a form read alike (`Form.read_congr`), and `Revises` lifts an
equality of readings from an inner record to the whole document. -/
namespace TypedCatalog

open Value (Entries lookup?)

namespace Value

variable {name key : Text} {before after : Entries} {value : Value}

theorem lookup?_append (name : Text) (before after : Entries) :
    lookup? name (before ++ after) = (lookup? name before).or (lookup? name after) := by
  induction before with
  | nil => rfl
  | cons entry before ih =>
    obtain ⟨key, held⟩ := entry
    cases key with
    | str key =>
      by_cases same : key = name
      · simp only [List.cons_append, lookup?, same, if_true, Option.some_or]
      · simp only [List.cons_append, lookup?, same, if_false, ih]
    | _ => exact ih

theorem lookup?_self : lookup? key (before ++ (.str key, value) :: after) =
    (lookup? key before).or (some value) := by
  rw [lookup?_append, lookup?, if_pos rfl]

theorem lookup?_other (other : name ≠ key) :
    lookup? name (before ++ (.str key, value) :: after) = lookup? name (before ++ after) := by
  rw [lookup?_append, lookup?, if_neg (Ne.symm other), ← lookup?_append]

/-- A function constant on two values is constant on the look-up in lists that differ by them. -/
theorem lookup?_replace {α : Type} {old new : Value} (result : Option Value → α)
    (same : result (some old) = result (some new)) (key : Text) (before after : Entries) :
    result (lookup? key (before ++ (.str key, old) :: after)) =
      result (lookup? key (before ++ (.str key, new) :: after)) := by
  rw [lookup?_self, lookup?_self]
  cases lookup? key before with
  | none => exact same
  | some held => rfl

end Value

namespace Catalog

/-- The record classes. -/
inductive Form where
  | schema
  | table
  | view
  | enumeration
  | routine
  | column
  | reference
  | parameter
  | resultColumn
  | health
  | cacheStatus
  deriving DecidableEq

namespace Form

abbrev Record : Form → Type
  | schema => Schema
  | table | view => Relation
  | enumeration => Enumeration
  | routine => Routine
  | column => Column
  | reference => Reference
  | parameter => Parameter
  | resultColumn => ResultColumn
  | health => Health
  | cacheStatus => CacheStatus

def read : (form : Form) → Value → Except Fault form.Record
  | schema => Schema.read
  | table => readTable
  | view => readView
  | enumeration => Enumeration.read
  | routine => Routine.read
  | column => Column.read
  | reference => Reference.read
  | parameter => Parameter.read
  | resultColumn => ResultColumn.read
  | health => Health.read
  | cacheStatus => CacheStatus.read

end Form

/-- The accesses of a reader. -/
inductive Look where
  /-- A required text. -/
  | required (key : Text)
  /-- A text with the empty default. -/
  | text (key : Text)
  /-- A flag with the default true. -/
  | truth (key : Text)
  /-- An optional value that must be truthy. -/
  | present (key : Text)
  /-- The first spelling that is not null. -/
  | spelled (spellings : List Text)
  | reference (key : Text)
  /-- An optional list of records. -/
  | list (key : Text) (form : Form)
  /-- An optional list or mapping of records. -/
  | group (key : Text) (form : Form)
  /-- An optional list of records under the first spelling that is not null. -/
  | spelledList (spellings : List Text) (form : Form)
  deriving DecidableEq

/-- The accesses of the reader of a form. -/
def Form.looks : Form → List Look
  | schema => [.required "name", .group "tables" table, .group "views" view,
      .group "enums" enumeration, .group "functions" routine, .group "procedures" routine,
      .group "triggers" routine]
  | table | view => [.required "name", .list "columns" column, .text "schema"]
  | enumeration => [.required "name", .present "values", .text "schema"]
  | routine => [.spelledList ["return_columns", "returnColumns"] resultColumn,
      .spelled ["return_type", "returnType"], .required "name", .list "parameters" parameter,
      .text "schema", .spelled ["kind", "type"],
      .spelled ["object_kind", "objectType", "object_type"], .spelled ["description"],
      .spelled ["is_strict", "isStrict"]]
  | column => [.required "name", .required "type", .reference "references", .truth "nullable",
      .spelled ["is_primary_key", "isPrimaryKey", "is_pk"], .spelled ["is_enum", "isEnum"]]
  | reference => [.text "schema", .text "table", .text "column"]
  | parameter => [.spelled ["default_value", "defaultValue"], .required "name", .required "type",
      .present "mode", .spelled ["has_default", "hasDefault"]]
  | resultColumn => [.required "name", .required "type"]
  | health => [.present "uptime", .text "status", .text "timestamp", .text "version",
      .spelled ["database_connected", "databaseConnected"]]
  | cacheStatus => [.spelled ["last_updated", "lastUpdated"],
      .spelled ["total_items", "totalItems"], .spelled ["tables_cached", "tablesCached"],
      .spelled ["views_cached", "viewsCached"], .spelled ["enums_cached", "enumsCached"],
      .spelled ["functions_cached", "functionsCached"],
      .spelled ["procedures_cached", "proceduresCached"],
      .spelled ["triggers_cached", "triggersCached"]]

/-- The value under a key, if it is truthy. -/
def presentOf (entries : Entries) (key : Text) : Option Value :=
  (lookup? key entries).filter Value.isTruthy

namespace Look

/-- The keys that a look depends on; a required key includes the name that its fault quotes. -/
def names : Look → List Text
  | required key => [key, "name"]
  | text key | truth key | present key | reference key | list key _
  | group key _ => [key]
  | spelled spellings | spelledList spellings _ => spellings

def isRequired : Look → Bool
  | required _ => true
  | _ => false

/-- Both mappings give the look the same result. -/
def Agrees (first second : Entries) : Look → Prop
  | required key => ∀ kind,
      Catalog.required kind first key = Catalog.required kind second key
  | text key => textOf first key = textOf second key
  | truth key => ((lookup? key first).getD (.bool true)).isTruthy =
      ((lookup? key second).getD (.bool true)).isTruthy
  | present key => presentOf first key = presentOf second key
  | spelled spellings => fieldOf first spellings = fieldOf second spellings
  | reference key => readReference (lookup? key first) = readReference (lookup? key second)
  | list key form =>
      readAll form.read (lookup? key first) = readAll form.read (lookup? key second)
  | group key form => ∀ name,
      readGroup form.read name (lookup? key first) = readGroup form.read name (lookup? key second)
  | spelledList spellings form =>
      (fieldOf first spellings).map (fun held => held.items >>= List.mapM form.read) =
        (fieldOf second spellings).map (fun held => held.items >>= List.mapM form.read)

end Look

variable {first second : Entries}

theorem modeOf_eq (entries : Entries) : modeOf entries =
    ((presentOf entries "mode").map fun mode => mode.text.map Text.upper).getD (.ok "IN") := by
  unfold modeOf presentOf
  cases lookup? "mode" entries with
  | none => rfl
  | some mode => cases truthy : mode.isTruthy <;> simp [Option.filter, truthy]

theorem readAll_present {α : Type} {read : Value → Except Fault α} (entries : Entries)
    (key : Text) : readAll read (lookup? key entries) = readAll read (presentOf entries key) := by
  unfold presentOf
  cases lookup? key entries with
  | none => rfl
  | some held => cases truthy : held.isTruthy <;> simp [readAll, Option.filter, truthy]

theorem Health.read_dict (entries : Entries) : Health.read (.dict entries) = do
    let status ← textOf entries "status"
    let timestamp ← textOf entries "timestamp"
    let version ← textOf entries "version"
    let uptime ← ((presentOf entries "uptime").map Value.toBinary64).getD (.ok .zero)
    return {
      status, timestamp, version, uptime
      databaseConnected := flagOf entries ["database_connected", "databaseConnected"] } := by
  unfold Health.read presentOf
  simp only [Value.entries, ok_bind]
  cases lookup? "uptime" entries with
  | none => rfl
  | some uptime =>
    cases truthy : uptime.isTruthy with
    | false => simp only [Option.filter, truthy]; rfl
    | true => simp only [Option.filter, truthy]; rfl

/-- The records of an optional list. -/
def optionalRecords {α : Type} (listed : Option (Except Fault (List α))) :
    Except Fault (Option (List α)) :=
  match listed with
  | none => .ok none
  | some records => records.map some

theorem Routine.read_dict (entries : Entries) : Routine.read (.dict entries) = do
    let name ← required "function" entries "name"
    let schema ← textOf entries "schema"
    let kind ← loweredField entries ["kind", "type"] "scalar"
    let objectKind ← loweredField entries ["object_kind", "objectType", "object_type"] "function"
    let parameters ← readAll Parameter.read (lookup? "parameters" entries)
    let returnType ← textIfHeld (fieldOf entries ["return_type", "returnType"])
    let returnColumns ← optionalRecords ((fieldOf entries ["return_columns", "returnColumns"]).map
      fun held => held.items >>= List.mapM ResultColumn.read)
    return {
      name, schema, kind, objectKind, parameters, returnType, returnColumns
      description := (fieldOf entries ["description"]).getD .null
      isStrict := flagOf entries ["is_strict", "isStrict"] } := by
  unfold Routine.read
  simp only [pick_dict, mapping, ok_bind]
  cases fieldOf entries ["return_columns", "returnColumns"] with
  | none => simp only [Option.map_none, optionalRecords, ok_bind, pure_bind]
  | some held =>
    cases listed : held.items with
    | error fault => simp only [listed, Option.map_some, optionalRecords]; rfl
    | ok items => simp only [listed, Option.map_some, optionalRecords, ok_bind]; rfl

/-- `read` is equal on mappings that agree on all looks of the form. -/
theorem Form.read_congr (form : Form) (agree : ∀ look ∈ form.looks, look.Agrees first second) :
    form.read (.dict first) = form.read (.dict second) := by
  cases form with
  | schema =>
    simp only [looks, List.forall_mem_cons, Look.Agrees, read] at agree
    simp only [read, Schema.read, mapping, ok_bind, agree]
  | table =>
    simp only [looks, List.forall_mem_cons, Look.Agrees, read] at agree
    simp only [read, readTable, Relation.read, mapping, ok_bind, agree]
  | view =>
    simp only [looks, List.forall_mem_cons, Look.Agrees, read] at agree
    simp only [read, readView, Relation.read, mapping, ok_bind, agree]
  | enumeration =>
    simp only [looks, List.forall_mem_cons, Look.Agrees] at agree
    simp only [read, Enumeration.read, mapping, readAll_present, ok_bind, agree]
  | routine =>
    simp only [looks, List.forall_mem_cons, Look.Agrees, read] at agree
    simp only [read, Routine.read_dict, loweredField, flagOf, agree]
  | column =>
    simp only [looks, List.forall_mem_cons, Look.Agrees] at agree
    simp only [read, Column.read, mapping, flagOf, ok_bind, agree]
  | reference =>
    simp only [looks, List.forall_mem_cons, Look.Agrees] at agree
    simp only [read, Reference.read, Value.entries, ok_bind, agree]
  | parameter =>
    simp only [looks, List.forall_mem_cons, Look.Agrees] at agree
    simp only [read, Parameter.read, mapping, pick_dict, modeOf_eq, flagOf, ok_bind, agree]
  | resultColumn =>
    simp only [looks, List.forall_mem_cons, Look.Agrees] at agree
    simp only [read, ResultColumn.read, mapping, ok_bind, agree]
  | health =>
    simp only [looks, List.forall_mem_cons, Look.Agrees] at agree
    simp only [read, Health.read_dict, flagOf, agree]
  | cacheStatus =>
    simp only [looks, List.forall_mem_cons, Look.Agrees] at agree
    simp only [read, CacheStatus.read, pick_dict, ok_bind, agree]

theorem fieldOf_cons (entries : Entries) (name : Text) (names : List Text) :
    fieldOf entries (name :: names) =
      ((lookup? name entries).filter fun held => !held.isNull).or (fieldOf entries names) := by
  rw [fieldOf]
  cases lookup? name entries with
  | none => rfl
  | some held => cases held <;> rfl

theorem fieldOf_congr {spellings : List Text}
    (same : ∀ name ∈ spellings, lookup? name first = lookup? name second) :
    fieldOf first spellings = fieldOf second spellings := by
  induction spellings with
  | nil => rfl
  | cons name names ih =>
    obtain ⟨here, others⟩ := List.forall_mem_cons.mp same
    rw [fieldOf_cons, fieldOf_cons, here, ih others]

namespace Look

/-- Agreement on the keys of a look implies agreement on the look. -/
theorem agrees_of_lookups {look : Look}
    (same : ∀ name ∈ look.names, lookup? name first = lookup? name second) :
    look.Agrees first second := by
  have here {key : Text} (inside : key ∈ look.names) := same key inside
  cases look with
  | required key =>
    intro kind
    rw [Catalog.required, Catalog.required, here List.mem_cons_self,
      here (.tail _ List.mem_cons_self)]
  | text key => rw [Agrees, textOf, textOf, here List.mem_cons_self]
  | truth key => rw [Agrees, here List.mem_cons_self]
  | present key => rw [Agrees, presentOf, presentOf, here List.mem_cons_self]
  | spelled spellings => exact fieldOf_congr same
  | reference key => rw [Agrees, here List.mem_cons_self]
  | list key form => rw [Agrees, here List.mem_cons_self]
  | group key form =>
    intro name
    rw [here List.mem_cons_self]
  | spelledList spellings form =>
    have alike : fieldOf first spellings = fieldOf second spellings := fieldOf_congr same
    rw [Agrees, alike]

end Look

/-- Different looks of a form have disjoint keys, except for required ones. -/
theorem Form.apart (form : Form) {look other : Look} (member : look ∈ form.looks)
    (memberToo : other ∈ form.looks) (differ : look ≠ other) (optional : look.isRequired = false)
    {key : Text} (inside : key ∈ look.names) : key ∉ other.names := by
  have all : ∀ look ∈ form.looks, ∀ other ∈ form.looks, look ≠ other → look.isRequired = false →
      ∀ key ∈ look.names, key ∉ other.names := by
    cases form <;> decide +kernel
  exact all look member other memberToo differ optional key inside

/-- The contexts in which a look finds a record: alone, in a list, or in a mapping. -/
inductive Look.Surrounds : Look → Text → Form → (Value → Value) → Prop where
  | reference (key : Text) : Surrounds (.reference key) key .reference id
  | list (key : Text) (form : Form) (before after : List Value) :
      Surrounds (.list key form) key form fun record => .list (before ++ record :: after)
  | group (key : Text) (form : Form) (before after : List Value) :
      Surrounds (.group key form) key form fun record => .list (before ++ record :: after)
  | keyed (key : Text) (form : Form) (before : Entries) (name : Value) (after : Entries) :
      Surrounds (.group key form) key form fun record => .dict (before ++ (name, record) :: after)
  | spelled {key : Text} {spellings : List Text} (form : Form) (before after : List Value) :
      key ∈ spellings → Surrounds (.spelledList spellings form) key form
        fun record => .list (before ++ record :: after)

/-- Two documents that differ by a change of one record at any depth. -/
inductive Revises (change : Form → Entries → Entries → Prop) : Form → Value → Value → Prop where
  | here {form : Form} {old new : Entries} :
      change form old new → Revises change form (.dict old) (.dict new)
  | inside {form inner : Form} {look : Look} {key : Text} {around : Value → Value}
      {old new : Value} (before after : Entries) :
      look ∈ form.looks → look.Surrounds key inner around → Revises change inner old new →
      Revises change form (.dict (before ++ (.str key, around old) :: after))
        (.dict (before ++ (.str key, around new) :: after))

theorem mapM_replace {α β : Type} {read : α → Except Fault β} {old new : α}
    (same : read old = read new) (before after : List α) :
    (before ++ old :: after).mapM read = (before ++ new :: after).mapM read := by
  simp only [List.mapM_append, List.mapM_cons, same]

theorem fieldOf_replace {α : Type} {old new : Value} (result : Option Value → α)
    (same : result (some old) = result (some new)) (present : old.isNull = false)
    (presentToo : new.isNull = false) (key : Text) (before after : Entries)
    (spellings : List Text) :
    result (fieldOf (before ++ (.str key, old) :: after) spellings) =
      result (fieldOf (before ++ (.str key, new) :: after) spellings) := by
  induction spellings with
  | nil => rfl
  | cons name names ih =>
    rw [fieldOf_cons, fieldOf_cons]
    by_cases here : name = key
    · subst here
      rw [Value.lookup?_self, Value.lookup?_self]
      cases lookup? name before with
      | none => simpa [Option.filter, present, presentToo] using same
      | some held =>
        rw [Option.some_or, Option.some_or]
        cases (some held).filter fun held => !held.isNull with
        | none => exact ih
        | some held => rfl
    · rw [Value.lookup?_other here, Value.lookup?_other here]
      cases (lookup? name (before ++ after)).filter fun held => !held.isNull with
      | none => exact ih
      | some held => rfl

theorem readAll_list {α : Type} (read : Value → Except Fault α) (items : List Value) :
    readAll read (some (.list items)) = items.mapM read := by
  cases items with
  | nil => rfl
  | cons item items => rfl

theorem readGroup_list {α : Type} (read : Value → Except Fault α) (name : α → Text)
    (items : List Value) : readGroup read name (some (.list items)) =
      do return .ofRecords name (← items.mapM read) := by
  cases items with
  | nil => rfl
  | cons item items => rfl

theorem readGroup_dict {α : Type} (read : Value → Except Fault α) (name : α → Text)
    (entries : Entries) : readGroup read name (some (.dict entries)) =
      do return .ofRecords name (← (entries.map (·.2)).mapM read) := by
  cases entries with
  | nil => rfl
  | cons entry entries => rfl

/-- If an inner record reads alike, the surrounding mappings agree on the look. -/
theorem Look.Surrounds.agrees {look : Look} {key : Text} {inner : Form} {around : Value → Value}
    (surrounds : look.Surrounds key inner around) {old new : Value}
    (same : inner.read old = inner.read new)
    (filled : inner = .reference → old.isTruthy = new.isTruthy) (before after : Entries) :
    look.Agrees (before ++ (.str key, around old) :: after)
      (before ++ (.str key, around new) :: after) := by
  cases surrounds with
  | reference key =>
    refine Value.lookup?_replace readReference ?_ key before after
    change Reference.read old = Reference.read new at same
    rw [readReference, readReference, id, id, filled rfl, same]
  | list key form left right =>
    refine Value.lookup?_replace (readAll inner.read) ?_ key before after
    rw [readAll_list, readAll_list, mapM_replace same]
  | group key form left right =>
    intro name
    refine Value.lookup?_replace (readGroup inner.read name) ?_ key before after
    rw [readGroup_list, readGroup_list, mapM_replace same]
  | keyed key form left entry right =>
    intro name
    refine Value.lookup?_replace (readGroup inner.read name) ?_ key before after
    rw [readGroup_dict, readGroup_dict, List.map_append, List.map_append, List.map_cons,
      List.map_cons, mapM_replace same]
  | spelled form left right inside =>
    refine fieldOf_replace (Option.map fun held => held.items >>= List.mapM inner.read) ?_ rfl rfl
      key before after _
    exact congrArg some (mapM_replace same left right)

theorem Look.Surrounds.inside_names {look : Look} {key : Text} {inner : Form}
    {around : Value → Value} (surrounds : look.Surrounds key inner around) :
    look.isRequired = false ∧ key ∈ look.names := by
  cases surrounds with
  | spelled _ _ _ inside => exact ⟨rfl, inside⟩
  | _ => exact ⟨rfl, List.mem_cons_self⟩

/-- If the changed record reads alike, so does the document. A reference must stay falsy or truthy,
since falsy ones are not read. -/
theorem Revises.read_eq {change : Form → Entries → Entries → Prop}
    (same : ∀ form old new, change form old new → form.read (.dict old) = form.read (.dict new))
    (filled : ∀ old new, change .reference old new → old.isEmpty = new.isEmpty)
    {form : Form} {old new : Value} (revises : Revises change form old new) :
    form.read old = form.read new := by
  suffices both : form.read old = form.read new ∧
      (form = .reference → old.isTruthy = new.isTruthy) from both.1
  induction revises with
  | here changed =>
    refine ⟨same _ _ _ changed, ?_⟩
    rintro rfl
    exact congrArg not (filled _ _ changed)
  | @inside form inner look key around old new before after member surrounds revises ih =>
    constructor
    · refine form.read_congr fun other memberToo => ?_
      by_cases this : look = other
      · subst this
        exact surrounds.agrees ih.1 ih.2 before after
      -- The other looks do not depend on the key under which the record is found.
      · obtain ⟨optional, inside⟩ := surrounds.inside_names
        have elsewhere := form.apart member memberToo this optional inside
        refine Look.agrees_of_lookups fun name held => ?_
        have apart : name ≠ key := fun same => elsewhere (same ▸ held)
        rw [Value.lookup?_other apart, Value.lookup?_other apart]
    · intro _
      cases before <;> rfl

/-- A schema with one table with one column. -/
def schemaAround (column : Entries) : Value :=
  .dict [(.ofText "name", .ofText "s"), (.ofText "tables", .list
    [.dict [(.ofText "name", .ofText "t"), (.ofText "schema", .ofText "s"),
      (.ofText "columns", .list [.dict column])]])]

theorem revises_schemaAround {change : Form → Entries → Entries → Prop} {old new : Entries}
    (changed : change .column old new) :
    Revises change .schema (schemaAround old) (schemaAround new) := by
  have inSchema : Look.group "tables" .table ∈ Form.schema.looks := by decide
  have inTable : Look.list "columns" .column ∈ Form.table.looks := by decide
  refine .inside [(.ofText "name", .ofText "s")] [] inSchema (.group _ _ [] []) ?_
  exact .inside [(.ofText "name", .ofText "t"), (.ofText "schema", .ofText "s")] [] inTable
    (.list _ _ [] []) (.here changed)

end Catalog
end TypedCatalog
