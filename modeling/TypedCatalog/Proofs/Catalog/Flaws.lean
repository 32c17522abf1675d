import TypedCatalog.Proofs.Catalog.Faults

/-! The flaws of a schema document of the right shape (`Schema.isShaped`) in evaluation order: keys
that are missing, and values that become a text and have none. `Schema.IsComplete` and
`Schema.IsWritable` state that there are none of either kind. -/
namespace TypedCatalog.Catalog

/-- The field is absent, falsy or of the shape. -/
def isEmptyOr (shape : Value → Bool) : Option Value → Bool
  | none => true
  | some data => !data.isTruthy || shape data

def isListOf (shape : Value → Bool) : Value → Bool
  | .list items => items.all shape
  | _ => false

/-- A list or a mapping whose members have the shape. -/
def isGroupOf (shape : Value → Bool) : Value → Bool
  | .list items => items.all shape
  | .dict entries => entries.all fun entry => shape entry.2
  | _ => false

def Column.isShaped (data : Value) : Bool :=
  data.isDict && isEmptyOr Value.isDict (data.field? "references")

def Relation.isShaped (data : Value) : Bool :=
  data.isDict && isEmptyOr (isListOf Column.isShaped) (data.field? "columns")

def Enumeration.isShaped (data : Value) : Bool :=
  data.isDict && isEmptyOr (isListOf fun _ => true) (data.field? "values")

def Routine.isShaped (data : Value) : Bool :=
  data.isDict && isEmptyOr (isListOf Value.isDict) (data.field? "parameters") &&
    (spelled? returnSpellings data).all (isListOf Value.isDict)

def Schema.isShaped (data : Value) : Bool :=
  data.isDict && isEmptyOr (isGroupOf Relation.isShaped) (data.field? "tables") &&
    isEmptyOr (isGroupOf Relation.isShaped) (data.field? "views") &&
    isEmptyOr (isGroupOf Enumeration.isShaped) (data.field? "enums") &&
    isEmptyOr (isGroupOf Routine.isShaped) (data.field? "functions") &&
    isEmptyOr (isGroupOf Routine.isShaped) (data.field? "procedures") &&
    isEmptyOr (isGroupOf Routine.isShaped) (data.field? "triggers")

/-- The members of an optional list or mapping. -/
def membersIn : Option Value → List Value
  | some (.list items) => items
  | some (.dict entries) => entries.map (·.2)
  | _ => []

/-- The members under a key. -/
def membersAt (name : Text) (data : Value) : List Value := membersIn (data.field? name)

def returnColumnsIn (data : Value) : List Value := membersIn (spelled? returnSpellings data)

/-- The missing keys among `name` and `type`. -/
def missingTyped (kind : Text) (data : Value) : List RecordFault :=
  lacking kind "name" data ++ lacking kind "type" data

def Relation.missing (kind : Text) (data : Value) : List RecordFault :=
  lacking kind "name" data ++ (membersAt "columns" data).flatMap (missingTyped "column")

def Enumeration.missing (data : Value) : List RecordFault := lacking "enum" "name" data

def Routine.missing (data : Value) : List RecordFault :=
  lacking "function" "name" data ++
    ((membersAt "parameters" data).flatMap (missingTyped "parameter") ++
      (returnColumnsIn data).flatMap (missingTyped "return column"))

/-- The missing keys of a schema, in the order in which they are reported. -/
def Schema.missing (data : Value) : List RecordFault :=
  lacking "schema" "name" data ++
    ((membersAt "tables" data).flatMap (Relation.missing "table") ++
      ((membersAt "views" data).flatMap (Relation.missing "view") ++
        ((membersAt "enums" data).flatMap Enumeration.missing ++
          ((membersAt "functions" data).flatMap Routine.missing ++
            ((membersAt "procedures" data).flatMap Routine.missing ++
              (membersAt "triggers" data).flatMap Routine.missing)))))

/-- What a document of the right shape can fail with. -/
inductive Flaw where
  | missing (fault : RecordFault)
  /-- A value without a text. -/
  | unwritable

def Flaw.fault : Flaw → Fault
  | missing fault => .record fault
  | unwritable => .content .unwritable

def Flaw.missing? : Flaw → Option RecordFault
  | missing fault => some fault
  | unwritable => none

def textFlaws (held : Option Value) : List Flaw :=
  match held with
  | none => []
  | some value => if value.isWritable then [] else [.unwritable]

def requiredFlaws (kind key : Text) (data : Value) : List Flaw :=
  textFlaws (data.field? key) ++ (lacking kind key data).map .missing

def typedFlaws (kind : Text) (data : Value) : List Flaw :=
  requiredFlaws kind "name" data ++ requiredFlaws kind "type" data

def Reference.flaws (held : Option Value) : List Flaw :=
  match held with
  | none => []
  | some data =>
    textFlaws (data.field? "schema") ++
      (textFlaws (data.field? "table") ++ textFlaws (data.field? "column"))

def Column.flaws (data : Value) : List Flaw :=
  typedFlaws "column" data ++ Reference.flaws (data.field? "references")

def Relation.flaws (kind : Text) (data : Value) : List Flaw :=
  requiredFlaws kind "name" data ++
    (textFlaws (data.field? "schema") ++ (membersAt "columns" data).flatMap Column.flaws)

def Enumeration.flaws (data : Value) : List Flaw :=
  requiredFlaws "enum" "name" data ++ (textFlaws (data.field? "schema") ++
    (membersAt "values" data).flatMap fun value => textFlaws (some value))

def Parameter.flaws (data : Value) : List Flaw :=
  typedFlaws "parameter" data ++
    (textFlaws (data.field? "mode") ++ textFlaws (spelled? defaultSpellings data))

def Routine.flaws (data : Value) : List Flaw :=
  requiredFlaws "function" "name" data ++ (textFlaws (data.field? "schema") ++
    (textFlaws (spelled? kindSpellings data) ++ (textFlaws (spelled? objectKindSpellings data) ++
      ((membersAt "parameters" data).flatMap Parameter.flaws ++
        (textFlaws (spelled? returnTypeSpellings data) ++
          (returnColumnsIn data).flatMap (typedFlaws "return column"))))))

/-- The flaws of a schema, in evaluation order. -/
def Schema.flaws (data : Value) : List Flaw :=
  requiredFlaws "schema" "name" data ++
    ((membersAt "tables" data).flatMap (Relation.flaws "table") ++
      ((membersAt "views" data).flatMap (Relation.flaws "view") ++
        ((membersAt "enums" data).flatMap Enumeration.flaws ++
          ((membersAt "functions" data).flatMap Routine.flaws ++
            ((membersAt "procedures" data).flatMap Routine.flaws ++
              (membersAt "triggers" data).flatMap Routine.flaws)))))

/-- The record holds a name and a type. -/
def IsTyped (data : Value) : Prop := data.holds "name" ∧ data.holds "type"

def Relation.IsComplete (data : Value) : Prop :=
  data.holds "name" ∧ ∀ column ∈ membersAt "columns" data, IsTyped column

def Routine.IsComplete (data : Value) : Prop :=
  data.holds "name" ∧ (∀ parameter ∈ membersAt "parameters" data, IsTyped parameter) ∧
    ∀ column ∈ returnColumnsIn data, IsTyped column

/-- The schema and every object has a name, and every column, parameter and return column a name and
a type. -/
structure Schema.IsComplete (data : Value) : Prop where
  name : data.holds "name"
  tables : ∀ table ∈ membersAt "tables" data, Relation.IsComplete table
  views : ∀ view ∈ membersAt "views" data, Relation.IsComplete view
  enums : ∀ enumeration ∈ membersAt "enums" data, enumeration.holds "name"
  functions : ∀ routine ∈ membersAt "functions" data, Routine.IsComplete routine
  procedures : ∀ routine ∈ membersAt "procedures" data, Routine.IsComplete routine
  triggers : ∀ routine ∈ membersAt "triggers" data, Routine.IsComplete routine

/-- The value, if there is one, has a text. -/
def IsWritten (held : Option Value) : Prop := ∀ value, held = some value → value.isWritable = true

structure Reference.IsWritable (data : Value) : Prop where
  schema : IsWritten (data.field? "schema")
  table : IsWritten (data.field? "table")
  column : IsWritten (data.field? "column")

structure Column.IsWritable (data : Value) : Prop where
  name : IsWritten (data.field? "name")
  type : IsWritten (data.field? "type")
  references : ∀ reference, data.field? "references" = some reference →
    Reference.IsWritable reference

structure Relation.IsWritable (data : Value) : Prop where
  name : IsWritten (data.field? "name")
  schema : IsWritten (data.field? "schema")
  columns : ∀ column ∈ membersAt "columns" data, Column.IsWritable column

structure Enumeration.IsWritable (data : Value) : Prop where
  name : IsWritten (data.field? "name")
  schema : IsWritten (data.field? "schema")
  values : ∀ value ∈ membersAt "values" data, value.isWritable = true

structure Parameter.IsWritable (data : Value) : Prop where
  name : IsWritten (data.field? "name")
  type : IsWritten (data.field? "type")
  mode : IsWritten (data.field? "mode")
  defaultValue : IsWritten (spelled? defaultSpellings data)

structure ResultColumn.IsWritable (data : Value) : Prop where
  name : IsWritten (data.field? "name")
  type : IsWritten (data.field? "type")

structure Routine.IsWritable (data : Value) : Prop where
  name : IsWritten (data.field? "name")
  schema : IsWritten (data.field? "schema")
  kind : IsWritten (spelled? kindSpellings data)
  objectKind : IsWritten (spelled? objectKindSpellings data)
  parameters : ∀ parameter ∈ membersAt "parameters" data, Parameter.IsWritable parameter
  returnType : IsWritten (spelled? returnTypeSpellings data)
  returnColumns : ∀ column ∈ returnColumnsIn data, ResultColumn.IsWritable column

/-- Every value of the schema that becomes a text has one. -/
structure Schema.IsWritable (data : Value) : Prop where
  name : IsWritten (data.field? "name")
  tables : ∀ table ∈ membersAt "tables" data, Relation.IsWritable table
  views : ∀ view ∈ membersAt "views" data, Relation.IsWritable view
  enums : ∀ enumeration ∈ membersAt "enums" data, Enumeration.IsWritable enumeration
  functions : ∀ routine ∈ membersAt "functions" data, Routine.IsWritable routine
  procedures : ∀ routine ∈ membersAt "procedures" data, Routine.IsWritable routine
  triggers : ∀ routine ∈ membersAt "triggers" data, Routine.IsWritable routine

variable {data : Value} {kind key : Text}

theorem lacking_eq_nil : lacking kind key data = [] ↔ data.holds key := by
  unfold lacking
  split
  · rename_i held
    exact ⟨fun _ => held, fun _ => rfl⟩
  · rename_i unheld
    constructor
    · intro same
      cases same
    · intro held
      exact absurd held unheld

theorem missingTyped_eq_nil : missingTyped kind data = [] ↔ IsTyped data := by
  rw [missingTyped, List.append_eq_nil_iff, lacking_eq_nil, lacking_eq_nil, IsTyped]

theorem Relation.missing_eq_nil : Relation.missing kind data = [] ↔ Relation.IsComplete data := by
  simp only [Relation.missing, List.append_eq_nil_iff, lacking_eq_nil, List.flatMap_eq_nil_iff,
    missingTyped_eq_nil, Relation.IsComplete]

theorem Routine.missing_eq_nil : Routine.missing data = [] ↔ Routine.IsComplete data := by
  simp only [Routine.missing, List.append_eq_nil_iff, lacking_eq_nil, List.flatMap_eq_nil_iff,
    missingTyped_eq_nil, Routine.IsComplete]

theorem Schema.missing_eq_nil : Schema.missing data = [] ↔ Schema.IsComplete data := by
  simp only [Schema.missing, List.append_eq_nil_iff, lacking_eq_nil, List.flatMap_eq_nil_iff,
    Relation.missing_eq_nil, Routine.missing_eq_nil, Enumeration.missing]
  constructor
  · rintro ⟨name, tables, views, enums, functions, procedures, triggers⟩
    exact ⟨name, tables, views, enums, functions, procedures, triggers⟩
  · rintro ⟨name, tables, views, enums, functions, procedures, triggers⟩
    exact ⟨name, tables, views, enums, functions, procedures, triggers⟩

section Flaws

variable {flaws : List Flaw} {held : Option Value}

theorem flaws_eq_nil :
    flaws = [] ↔ flaws.filterMap Flaw.missing? = [] ∧ Flaw.unwritable ∉ flaws := by
  cases flaws with
  | nil => simp
  | cons flaw flaws => cases flaw <;> simp [Flaw.missing?]

/-- Without `unwritable` the flaws are the missing keys. -/
theorem flaws_eq_missing (writable : Flaw.unwritable ∉ flaws) :
    flaws.map Flaw.fault = (flaws.filterMap Flaw.missing?).map .record := by
  induction flaws with
  | nil => rfl
  | cons flaw flaws ih =>
    rw [List.mem_cons, not_or] at writable
    cases flaw with
    | missing fault => exact congrArg (Fault.record fault :: ·) (ih writable.2)
    | unwritable => exact absurd rfl writable.1

theorem missing_textFlaws (held : Option Value) :
    (textFlaws held).filterMap Flaw.missing? = [] := by
  unfold textFlaws
  cases held with
  | none => rfl
  | some value => cases writable : value.isWritable <;> simp [Flaw.missing?]

theorem missing_requiredFlaws (kind key : Text) (data : Value) :
    (requiredFlaws kind key data).filterMap Flaw.missing? = lacking kind key data := by
  rw [requiredFlaws, List.filterMap_append, missing_textFlaws, List.nil_append, List.filterMap_map]
  exact List.filterMap_some

theorem missing_typedFlaws (kind : Text) (data : Value) :
    (typedFlaws kind data).filterMap Flaw.missing? = missingTyped kind data := by
  rw [typedFlaws, List.filterMap_append, missing_requiredFlaws, missing_requiredFlaws, missingTyped]

theorem missing_referenceFlaws (held : Option Value) :
    (Reference.flaws held).filterMap Flaw.missing? = [] := by
  unfold Reference.flaws
  cases held with
  | none => rfl
  | some data => simp only [List.filterMap_append, missing_textFlaws, List.append_nil]

theorem Column.missing_flaws (data : Value) :
    (Column.flaws data).filterMap Flaw.missing? = missingTyped "column" data := by
  rw [Column.flaws, List.filterMap_append, missing_typedFlaws, missing_referenceFlaws,
    List.append_nil]

theorem Relation.missing_flaws (kind : Text) (data : Value) :
    (Relation.flaws kind data).filterMap Flaw.missing? = Relation.missing kind data := by
  simp only [Relation.flaws, List.filterMap_append, missing_requiredFlaws, missing_textFlaws,
    List.nil_append, List.filterMap_flatMap, Column.missing_flaws, Relation.missing]

theorem Enumeration.missing_flaws (data : Value) :
    (Enumeration.flaws data).filterMap Flaw.missing? = Enumeration.missing data := by
  simp only [Enumeration.flaws, List.filterMap_append, missing_requiredFlaws, missing_textFlaws,
    List.nil_append, List.filterMap_flatMap, Enumeration.missing]
  rw [List.flatMap_eq_nil_iff.mpr fun _ _ => rfl, List.append_nil]

theorem Parameter.missing_flaws (data : Value) :
    (Parameter.flaws data).filterMap Flaw.missing? = missingTyped "parameter" data := by
  simp only [Parameter.flaws, List.filterMap_append, missing_typedFlaws, missing_textFlaws,
    List.append_nil]

theorem Routine.missing_flaws (data : Value) :
    (Routine.flaws data).filterMap Flaw.missing? = Routine.missing data := by
  simp only [Routine.flaws, List.filterMap_append, missing_requiredFlaws, missing_textFlaws,
    List.nil_append, List.filterMap_flatMap, Parameter.missing_flaws, missing_typedFlaws,
    Routine.missing]

theorem Schema.missing_flaws (data : Value) :
    (Schema.flaws data).filterMap Flaw.missing? = Schema.missing data := by
  simp only [Schema.flaws, List.filterMap_append, missing_requiredFlaws, List.filterMap_flatMap,
    Relation.missing_flaws, Enumeration.missing_flaws, Routine.missing_flaws, Schema.missing]

theorem writable_textFlaws : Flaw.unwritable ∉ textFlaws held ↔ IsWritten held := by
  unfold textFlaws IsWritten
  cases held with
  | none => simp
  | some value => cases writable : value.isWritable <;> simp [writable]

theorem writable_requiredFlaws :
    Flaw.unwritable ∉ requiredFlaws kind key data ↔ IsWritten (data.field? key) := by
  rw [requiredFlaws, List.mem_append, not_or, writable_textFlaws, and_iff_left]
  intro member
  obtain ⟨fault, -, same⟩ := List.mem_map.mp member
  cases same

theorem writable_typedFlaws : Flaw.unwritable ∉ typedFlaws kind data ↔
    IsWritten (data.field? "name") ∧ IsWritten (data.field? "type") := by
  rw [typedFlaws, List.mem_append, not_or, writable_requiredFlaws, writable_requiredFlaws]

theorem Reference.writable_flaws : Flaw.unwritable ∉ Reference.flaws held ↔
    ∀ reference, held = some reference → Reference.IsWritable reference := by
  unfold Reference.flaws
  cases held with
  | none => simp
  | some data =>
    simp only [List.mem_append, not_or, writable_textFlaws, Option.some.injEq, forall_eq']
    exact ⟨fun ⟨schema, table, column⟩ => ⟨schema, table, column⟩,
      fun ⟨schema, table, column⟩ => ⟨schema, table, column⟩⟩

theorem Column.writable_flaws : Flaw.unwritable ∉ Column.flaws data ↔ Column.IsWritable data := by
  simp only [Column.flaws, List.mem_append, not_or, writable_typedFlaws, Reference.writable_flaws]
  exact ⟨fun ⟨⟨name, type⟩, references⟩ => ⟨name, type, references⟩,
    fun ⟨name, type, references⟩ => ⟨⟨name, type⟩, references⟩⟩

theorem writable_flatMap {parts : List Value} {flawsOf : Value → List Flaw} {holds : Value → Prop}
    (each : ∀ part, Flaw.unwritable ∉ flawsOf part ↔ holds part) :
    Flaw.unwritable ∉ parts.flatMap flawsOf ↔ ∀ part ∈ parts, holds part := by
  rw [List.mem_flatMap, not_exists]
  exact forall_congr' fun part => by rw [not_and, each]

theorem Relation.writable_flaws :
    Flaw.unwritable ∉ Relation.flaws kind data ↔ Relation.IsWritable data := by
  simp only [Relation.flaws, List.mem_append, not_or, writable_requiredFlaws, writable_textFlaws,
    writable_flatMap fun _ => Column.writable_flaws]
  exact ⟨fun ⟨name, schema, columns⟩ => ⟨name, schema, columns⟩,
    fun ⟨name, schema, columns⟩ => ⟨name, schema, columns⟩⟩

theorem Enumeration.writable_flaws :
    Flaw.unwritable ∉ Enumeration.flaws data ↔ Enumeration.IsWritable data := by
  have text (value : Value) :
      Flaw.unwritable ∉ textFlaws (some value) ↔ value.isWritable = true := by
    rw [writable_textFlaws, IsWritten]
    simp
  simp only [Enumeration.flaws, List.mem_append, not_or, writable_requiredFlaws,
    writable_textFlaws, writable_flatMap text]
  exact ⟨fun ⟨name, schema, values⟩ => ⟨name, schema, values⟩,
    fun ⟨name, schema, values⟩ => ⟨name, schema, values⟩⟩

theorem Parameter.writable_flaws :
    Flaw.unwritable ∉ Parameter.flaws data ↔ Parameter.IsWritable data := by
  simp only [Parameter.flaws, List.mem_append, not_or, writable_typedFlaws, writable_textFlaws]
  exact ⟨fun ⟨⟨name, type⟩, mode, value⟩ => ⟨name, type, mode, value⟩,
    fun ⟨name, type, mode, value⟩ => ⟨⟨name, type⟩, mode, value⟩⟩

theorem ResultColumn.writable_flaws :
    Flaw.unwritable ∉ typedFlaws "return column" data ↔ ResultColumn.IsWritable data :=
  writable_typedFlaws.trans ⟨fun ⟨name, type⟩ => ⟨name, type⟩, fun ⟨name, type⟩ => ⟨name, type⟩⟩

theorem Routine.writable_flaws :
    Flaw.unwritable ∉ Routine.flaws data ↔ Routine.IsWritable data := by
  simp only [Routine.flaws, List.mem_append, not_or, writable_requiredFlaws, writable_textFlaws,
    writable_flatMap fun _ => Parameter.writable_flaws,
    writable_flatMap fun _ => ResultColumn.writable_flaws]
  constructor
  · rintro ⟨name, schema, kind, objectKind, parameters, returnType, returnColumns⟩
    exact ⟨name, schema, kind, objectKind, parameters, returnType, returnColumns⟩
  · rintro ⟨name, schema, kind, objectKind, parameters, returnType, returnColumns⟩
    exact ⟨name, schema, kind, objectKind, parameters, returnType, returnColumns⟩

theorem Schema.writable_flaws : Flaw.unwritable ∉ Schema.flaws data ↔ Schema.IsWritable data := by
  simp only [Schema.flaws, List.mem_append, not_or, writable_requiredFlaws,
    writable_flatMap fun _ => Relation.writable_flaws,
    writable_flatMap fun _ => Enumeration.writable_flaws,
    writable_flatMap fun _ => Routine.writable_flaws]
  constructor
  · rintro ⟨name, tables, views, enums, functions, procedures, triggers⟩
    exact ⟨name, tables, views, enums, functions, procedures, triggers⟩
  · rintro ⟨name, tables, views, enums, functions, procedures, triggers⟩
    exact ⟨name, tables, views, enums, functions, procedures, triggers⟩

end Flaws

end TypedCatalog.Catalog
