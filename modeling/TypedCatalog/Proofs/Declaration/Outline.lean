import TypedCatalog.Proofs.Declaration.Routines

/-! `Outlines` relates a schema to the declarations of its module, property by property and without
the functions that generate them. `readModule` recovers exactly the list that `Outlines` the schema.
-/
namespace TypedCatalog.Declaration

open Catalog

/-- One property per column: its name, its declared type, and optional exactly if it is nullable. -/
def tableDeclared (table : Relation) : Declaration :=
  interface (Name.pascal table.name) <| table.columns.map fun column =>
    ⟨column.name, SqlType.declared column.type, column.nullable, []⟩

def viewDeclared (view : Relation) : Declaration :=
  interface (Name.pascal view.name ++ "View") <| view.columns.map fun column =>
    ⟨column.name, SqlType.declared column.type, column.nullable, []⟩

/-- The four paging properties, then one optional nullable property per column. -/
def queryDeclared (table : Relation) : Declaration :=
  interface (Name.pascal table.name ++ "QueryParams") <|
    [⟨"limit", "number", true, []⟩, ⟨"offset", "number", true, []⟩, ⟨"order_by", "string", true, []⟩,
      ⟨"order_dir", "\"asc\" | \"desc\"", true, []⟩] ++
    table.columns.map fun column =>
      ⟨column.name, SqlType.declared column.type ++ " | null", true, []⟩

def enumDeclared (held : Enumeration) : Declaration :=
  enumeration (Name.pascal held.name) <| held.values.map fun value => (Name.enumMember value, value)

/-- The declarations of a schema: tables with their queries, views, enumerations, functions and
procedures, each in the order of its records. -/
inductive Outlines (schema : Schema) : List Declaration → Prop where
  | parts {functions procedures : List (List Declaration)} :
      List.Forall₂ (fun routine => Declares (Name.pascal routine.name) routine)
        schema.functions.records functions →
      List.Forall₂ (fun routine => Declares (Name.pascal routine.name ++ "Procedure") routine)
        schema.procedures.records procedures →
      Outlines schema
        ((schema.tables.records.flatMap fun table => [tableDeclared table, queryDeclared table]) ++
          schema.views.records.map viewDeclared ++ schema.enums.records.map enumDeclared ++
          functions.flatten ++ procedures.flatten)

section Unique

variable {base : Text} {routine : Routine}

theorem OnlyIf.unique {condition : Prop} {declaration : Declaration} {first second : List Declaration}
    (only : OnlyIf condition declaration first) (again : OnlyIf condition declaration second) :
    first = second := by
  by_cases given : condition
  · rw [only.declares given, again.declares given]
  · rw [only.omits given, again.omits given]

/-- The result is the last declaration of a routine. -/
theorem IsResult.getLast?_eq {declaration : Declaration}
    (isResult : IsResult base routine declaration) :
    (resultOf base routine).getLast? = some declaration := by
  have columns : routine.returnColumns.getD [] = columnsOf routine := rfl
  cases isResult with
  | rows nonempty many =>
    obtain ⟨column, others, shape⟩ := List.exists_cons_of_ne_nil nonempty
    simp only [resultOf, columns, shape, (isSequence_iff routine).mpr many, if_true]
    rfl
  | row nonempty single =>
    obtain ⟨column, others, shape⟩ := List.exists_cons_of_ne_nil nonempty
    simp only [resultOf, columns, shape, (isSequence_iff routine).not.mpr single]
    rfl
  | values empty given filled many =>
    simp only [resultOf, columns, empty, returned?_eq_some.mpr ⟨given, filled⟩, many, if_true]
    rfl
  | value empty given filled single =>
    simp only [resultOf, columns, empty, returned?_eq_some.mpr ⟨given, filled⟩, if_neg single]
    rfl
  | outputs empty nothing several =>
    have nonempty : routine.outputs.isEmpty = false := by simpa using outputs_ne_nil.mpr several
    simp only [resultOf, columns, empty, returned?_eq_none.mpr nothing, nonempty,
      outputsDeclared_eq]
    rfl
  | nothing empty nothing silent =>
    have outputs : routine.outputs = [] := by simpa using outputs_ne_nil.not.mpr silent
    simp only [resultOf, columns, empty, returned?_eq_none.mpr nothing, outputs]
    rfl

theorem IsResult.unique {first second : Declaration} (isResult : IsResult base routine first)
    (again : IsResult base routine second) : first = second :=
  Option.some.inj (isResult.getLast?_eq.symm.trans again.getLast?_eq)

theorem Declares.unique {first second : List Declaration} (declares : Declares base routine first)
    (again : Declares base routine second) : first = second := by
  obtain ⟨takes, rows, isResult⟩ := declares
  obtain ⟨takesToo, rowsToo, isResultToo⟩ := again
  rw [takes.unique takesToo, rows.unique rowsToo, isResult.unique isResultToo]

theorem forall₂_declares_unique {base : Routine → Text} {routines : List Routine}
    {first second : List (List Declaration)}
    (each : List.Forall₂ (fun routine => Declares (base routine) routine) routines first)
    (again : List.Forall₂ (fun routine => Declares (base routine) routine) routines second) :
    first = second := by
  induction each generalizing second with
  | nil => exact (List.forall₂_nil_left_iff.mp again).symm
  | cons declares _ ih =>
    obtain ⟨other, others, declaresToo, againToo, rfl⟩ := List.forall₂_cons_left_iff.mp again
    rw [declares.unique declaresToo, ih againToo]

theorem Outlines.unique {schema : Schema} {first second : List Declaration}
    (outlines : Outlines schema first) (again : Outlines schema second) : first = second := by
  obtain ⟨functions, procedures⟩ := outlines
  obtain ⟨functionsToo, proceduresToo⟩ := again
  rw [forall₂_declares_unique functions functionsToo,
    forall₂_declares_unique procedures proceduresToo]

end Unique

theorem outlines_bareDeclarations (schema : Schema) : Outlines schema (bareDeclarations schema) := by
  have each (suffix : Text) (routines : List Routine) :
      List.Forall₂ (fun routine => Declares (Name.pascal routine.name ++ suffix) routine) routines
        (routines.map (ofRoutine suffix)) := by
    rw [List.forall₂_map_right_iff, List.forall₂_same]
    exact fun routine _ => declares_ofRoutine suffix routine
  have functions := each [] schema.functions.records
  simp only [List.append_nil] at functions
  have procedures := each procedureSuffix schema.procedures.records
  have parts := Outlines.parts functions procedures
  rw [← List.flatMap_def, ← List.flatMap_def] at parts
  simp only [bareDeclarations_eq, bare_ofTable]
  exact parts

/-- The body of `schemaModule`, after the fixed header prefix around the schema name, decodes by
`readModule` to the unique list of declarations that `Outlines` the schema. -/
theorem readModule_schemaModule (schema : Schema) : ∃ body declarations,
    schemaModule schema = "/**\n * Generated TypeScript types for the \"".toList ++ schema.name ++
      "\" schema\n */\n".toList ++ body ∧
    readModule body = some declarations ∧
    ∀ others, Outlines schema others ↔ others = declarations := by
  have outlines := outlines_bareDeclarations schema
  refine ⟨(sections schema).flatMap Section.text, bareDeclarations schema, rfl,
    readModule_sections schema, fun others => ⟨fun again => again.unique outlines, ?_⟩⟩
  rintro rfl
  exact outlines

end TypedCatalog.Declaration
