import TypedCatalog.Catalog.Plain
import TypedCatalog.Proofs.Catalog.Record
import TypedCatalog.Proofs.Catalog.Looks

/-! Round trip of records: `read` inverts `plain` on records with `IsRecord`, and `plain` yields
documents. -/
namespace TypedCatalog.Catalog

open Json (IsDocument)

variable {α : Type} {plain : α → Value} {read : Value → Except Fault α} {name : α → Text}
  {holds : α → Prop}

theorem isDocument_textOrNull (text : Option Text) : IsDocument (textOrNull text) := by
  cases text with
  | none => exact .null
  | some text => exact .str text

theorem isDocument_listOf {items : List α} (documents : ∀ item ∈ items, IsDocument (plain item)) :
    IsDocument (listOf plain items) := by
  apply IsDocument.list
  intro value member
  obtain ⟨item, inside, rfl⟩ := List.mem_map.mp member
  exact documents item inside

theorem isDocument_register {register : Register α} (keyed : register.IsKeyed name holds)
    (documents : ∀ record, holds record → IsDocument (plain record)) :
    IsDocument (register.plain plain) := by
  apply IsDocument.dict
  · rw [List.map_map]
    exact keyed.distinct
  · intro field member
    obtain ⟨entry, inside, rfl⟩ := List.mem_map.mp member
    exact documents entry.2 (keyed.records entry inside)

theorem Reference.isDocument_plain (reference : Reference) : IsDocument reference.plain :=
  .dict (by simp) (by simp [IsDocument.str])

theorem Column.isDocument_plain (column : Column) : IsDocument column.plain := by
  have references : IsDocument ((column.references.map Reference.plain).getD .null) := by
    cases column.references with
    | none => exact .null
    | some reference => exact reference.isDocument_plain
  exact .dict (by simp) (by simp [IsDocument.str, IsDocument.bool, references])

theorem Relation.isDocument_plain (relation : Relation) : IsDocument relation.plain := by
  have columns := isDocument_listOf fun column (_ : column ∈ relation.columns) =>
    column.isDocument_plain
  exact .dict (by simp) (by simp [IsDocument.str, columns])

theorem Enumeration.isDocument_plain (enumeration : Enumeration) :
    IsDocument enumeration.plain := by
  have values := isDocument_listOf fun value (_ : value ∈ enumeration.values) =>
    IsDocument.str value
  exact .dict (by simp) (by simp [IsDocument.str, values])

theorem Parameter.isDocument_plain (parameter : Parameter) : IsDocument parameter.plain :=
  .dict (by simp) (by simp [IsDocument.str, IsDocument.bool, isDocument_textOrNull])

theorem ResultColumn.isDocument_plain (column : ResultColumn) : IsDocument column.plain :=
  .dict (by simp) (by simp [IsDocument.str])

theorem Routine.isDocument_plain {routine : Routine} (record : routine.IsRecord) :
    IsDocument routine.plain := by
  have parameters := isDocument_listOf fun parameter (_ : parameter ∈ routine.parameters) =>
    parameter.isDocument_plain
  have columns : IsDocument
      ((routine.returnColumns.map (listOf ResultColumn.plain)).getD .null) := by
    cases routine.returnColumns with
    | none => exact .null
    | some columns => exact isDocument_listOf fun column _ => column.isDocument_plain
  exact .dict (by simp) (by simp [IsDocument.str, IsDocument.bool, isDocument_textOrNull,
    parameters, columns, record.description])

theorem Schema.isDocument_plain {schema : Schema} (record : schema.IsRecord) :
    IsDocument schema.plain := by
  have tables := isDocument_register record.tables fun relation _ => relation.isDocument_plain
  have views := isDocument_register record.views fun relation _ => relation.isDocument_plain
  have enums := isDocument_register record.enums fun enum _ => enum.isDocument_plain
  have functions := isDocument_register record.functions fun _ => Routine.isDocument_plain
  have procedures := isDocument_register record.procedures fun _ => Routine.isDocument_plain
  have triggers := isDocument_register record.triggers fun _ => Routine.isDocument_plain
  exact .dict (by simp) (by simp [IsDocument.str, tables, views, enums, functions, procedures,
    triggers])

theorem readAll_listOf {items : List α} (back : ∀ item ∈ items, read (plain item) = .ok item) :
    readAll read (some (listOf plain items)) = .ok items := by
  cases items with
  | nil => rfl
  | cons item items => exact mapM_map back

theorem readAll_texts (texts : List Text) :
    readAll Value.text (some (listOf .str texts)) = .ok texts :=
  readAll_listOf fun _ _ => rfl

theorem readGroup_register {register : Register α} (keyed : register.IsKeyed name holds)
    (back : ∀ record, holds record → read (plain record) = .ok record) :
    readGroup read name (some (register.plain plain)) = .ok register := by
  cases shape : register with
  | nil => rfl
  | cons entry rest =>
    rw [← shape]
    have members : membersOf (register.plain plain) = .ok (register.records.map plain) := by
      simp only [Register.plain, Value.ofFields, membersOf, Register.records, List.map_map]
      rfl
    have done : (register.records.map plain).mapM read = .ok register.records := by
      apply mapM_map
      intro record member
      obtain ⟨entry, inside, rfl⟩ := List.mem_map.mp member
      exact back entry.2 (keyed.records entry inside)
    have truthy : (register.plain plain).isTruthy = true := by
      rw [shape]
      rfl
    simp only [readGroup, truthy, if_true, members]
    change (do
      let records ← (register.records.map plain).mapM read
      return Register.ofRecords name records) = .ok register
    rw [done]
    exact congrArg Except.ok keyed.ofRecords

theorem Column.read_plain {column : Column} (record : column.IsRecord) :
    Column.read column.plain = .ok column := by
  obtain ⟨name, type, nullable, isPrimaryKey, isEnum, references⟩ := column
  obtain ⟨c, name, rfl⟩ := List.exists_cons_of_ne_nil record.name
  obtain ⟨d, type, rfl⟩ := List.exists_cons_of_ne_nil record.type
  cases references with
  | none => rfl
  | some reference => rfl

theorem Relation.read_plain {relation : Relation} (record : relation.IsRecord) (kind : Text) :
    Relation.read kind relation.plain = .ok relation := by
  obtain ⟨name, schema, columns⟩ := relation
  obtain ⟨c, name, rfl⟩ := List.exists_cons_of_ne_nil record.name
  have listed := readAll_listOf fun column member =>
    Column.read_plain (record.columns column member)
  change (do
    let columns ← readAll Column.read (some (listOf Column.plain columns))
    return ⟨c :: name, schema, columns⟩ : Except Fault Relation) = _
  rw [listed]
  rfl

theorem Enumeration.read_plain {enumeration : Enumeration} (record : enumeration.IsRecord) :
    Enumeration.read enumeration.plain = .ok enumeration := by
  obtain ⟨name, schema, values⟩ := enumeration
  obtain ⟨c, name, rfl⟩ := List.exists_cons_of_ne_nil record.name
  change (do
    let values ← readAll Value.text (some (listOf .str values))
    return ⟨c :: name, schema, values⟩ : Except Fault Enumeration) = _
  rw [readAll_texts]
  rfl

theorem Parameter.read_plain {parameter : Parameter} (record : parameter.IsRecord) :
    Parameter.read parameter.plain = .ok parameter := by
  obtain ⟨name, type, mode, hasDefault, defaultValue⟩ := parameter
  obtain ⟨c, name, rfl⟩ := List.exists_cons_of_ne_nil record.name
  obtain ⟨d, type, rfl⟩ := List.exists_cons_of_ne_nil record.type
  obtain ⟨e, mode, rfl⟩ := List.exists_cons_of_ne_nil record.mode
  have capitals : Text.upper (e :: mode) = e :: mode := record.capitals
  have read : Parameter.read (Parameter.plain ⟨c :: name, d :: type, e :: mode, hasDefault,
      defaultValue⟩) = .ok ⟨c :: name, d :: type, Text.upper (e :: mode), hasDefault,
        defaultValue⟩ := by
    cases defaultValue with
    | none => rfl
    | some text => rfl
  rw [read, capitals]

theorem ResultColumn.read_plain {column : ResultColumn} (record : column.IsRecord) :
    ResultColumn.read column.plain = .ok column := by
  obtain ⟨name, type⟩ := column
  obtain ⟨c, name, rfl⟩ := List.exists_cons_of_ne_nil record.name
  obtain ⟨d, type, rfl⟩ := List.exists_cons_of_ne_nil record.type
  rfl

theorem fieldOf_alone (key : Text) (value : Value) :
    (fieldOf [(.str key, value)] [key]).getD .null = value := by
  unfold fieldOf
  rw [Value.lookup?, if_pos rfl]
  cases value <;> rfl

/-- `plain` distinguishes an absent return type from an empty one, and absent result columns from an
empty list. -/
theorem Routine.fieldOf_plain {routine : Routine} {entries : Value.Entries}
    (shape : routine.plain = .dict entries) :
    fieldOf entries ["return_type", "returnType"] = routine.returnType.map .str ∧
      fieldOf entries ["return_columns", "returnColumns"] =
        routine.returnColumns.map (listOf ResultColumn.plain) := by
  obtain ⟨_, _, _, _, _, returnType, returnColumns, _, _⟩ := routine
  cases shape
  constructor
  · cases returnType <;> rfl
  · cases returnColumns <;> rfl

theorem optionalRecords_plain {columns : Option (List ResultColumn)}
    (records : ∀ listed, columns = some listed → ∀ column ∈ listed, column.IsRecord) :
    optionalRecords ((columns.map (listOf ResultColumn.plain)).map
      fun held => held.items >>= List.mapM ResultColumn.read) = .ok columns := by
  cases columns with
  | none => rfl
  | some columns =>
    have back := mapM_map fun column member =>
      ResultColumn.read_plain (records columns rfl column member)
    exact congrArg (Except.map some) back

theorem Routine.read_plain {routine : Routine} (record : routine.IsRecord) :
    Routine.read routine.plain = .ok routine := by
  obtain ⟨entries, shape⟩ : ∃ entries, routine.plain = .dict entries := ⟨_, rfl⟩
  obtain ⟨type, columns⟩ := Routine.fieldOf_plain shape
  have inputs := readAll_listOf fun parameter member =>
    Parameter.read_plain (record.parameters parameter member)
  rw [shape, Routine.read_dict, type, columns, optionalRecords_plain record.returnColumns]
  obtain ⟨name, schema, kind, objectKind, parameters, returnType, returnColumns, description,
    isStrict⟩ := routine
  obtain ⟨c, name, rfl⟩ := List.exists_cons_of_ne_nil record.name
  have small : Text.lower kind = kind := record.kind
  have smallObject : Text.lower objectKind = objectKind := record.objectKind
  have described := fieldOf_alone "description" description
  have typed : textIfHeld (returnType.map .str) = .ok returnType := by cases returnType <;> rfl
  cases shape
  change (do
    let parameters ← readAll Parameter.read (some (listOf Parameter.plain parameters))
    let returnType ← textIfHeld (returnType.map .str)
    return {
      name := c :: name, schema, parameters, returnType, returnColumns, isStrict
      kind := Text.lower kind
      objectKind := Text.lower objectKind
      description := (fieldOf [(.str "description", description)] ["description"]).getD .null } :
        Except Fault Routine) = _
  rw [inputs, small, smallObject, typed, described]
  rfl

theorem Schema.read_plain {schema : Schema} (record : schema.IsRecord) :
    Schema.read schema.plain = .ok schema := by
  have readTables := readGroup_register record.tables fun _ found =>
    Relation.read_plain found "table"
  have readViews := readGroup_register record.views fun _ found =>
    Relation.read_plain found "view"
  have readEnums := readGroup_register record.enums fun _ => Enumeration.read_plain
  have readFunctions := readGroup_register record.functions fun _ => Routine.read_plain
  have readProcedures := readGroup_register record.procedures fun _ => Routine.read_plain
  have readTriggers := readGroup_register record.triggers fun _ => Routine.read_plain
  obtain ⟨name, tables, views, enums, functions, procedures, triggers⟩ := schema
  obtain ⟨c, name, rfl⟩ := List.exists_cons_of_ne_nil record.name
  change (do
    let tables ← readGroup readTable (·.name) (some (tables.plain Relation.plain))
    let views ← readGroup readView (·.name) (some (views.plain Relation.plain))
    let enums ← readGroup Enumeration.read (·.name) (some (enums.plain Enumeration.plain))
    let functions ← readGroup Routine.read (·.name) (some (functions.plain Routine.plain))
    let procedures ← readGroup Routine.read (·.name) (some (procedures.plain Routine.plain))
    let triggers ← readGroup Routine.read (·.name) (some (triggers.plain Routine.plain))
    return ⟨c :: name, tables, views, enums, functions, procedures, triggers⟩ :
      Except Fault Schema) = _
  rw [readTable, readTables, readView, readViews, readEnums, readFunctions, readProcedures,
    readTriggers]
  rfl

end TypedCatalog.Catalog
