import TypedCatalog.Declaration.Writer
import TypedCatalog.Proofs.Name
import TypedCatalog.Proofs.Text.Split

/-! Module names: when `clash?` fails, and decoding of the index by `exportsIn`. -/
namespace TypedCatalog.Declaration

open Catalog

variable {before schemas : List Schema} {owner schema : Schema}

theorem moduleFile_inj :
    moduleFile owner = moduleFile schema ↔
      Name.moduleName owner.name = Name.moduleName schema.name := by
  simp only [moduleFile, List.append_left_inj]

/-- A module file is `types-`, a stem over `[A-Za-z0-9_-]`, and `.ts`, for every schema name. -/
theorem moduleFile_eq (schema : Schema) : ∃ stem : Text,
    (∀ c ∈ stem, Name.isModuleChar c = true) ∧ moduleFile schema = "types-" ++ stem ++ ".ts" := by
  refine ⟨schema.name.map fun c => if Name.isModuleChar c then c else '_', ?_, rfl⟩
  intro c member
  exact Name.isModuleChar_moduleName schema.name c (List.mem_append_right _ member)

theorem moduleFile_ne_indexName (schema : Schema) : moduleFile schema ≠ indexName := by
  intro same
  have first : (moduleFile schema).head? = indexName.head? := congrArg List.head? same
  cases first

theorem nodup_concat : ((before ++ [schema]).map moduleFile).Nodup ↔
    (before.map moduleFile).Nodup ∧ ∀ owner ∈ before, moduleFile owner ≠ moduleFile schema := by
  rw [List.map_append, List.map_singleton, List.nodup_append]
  simp

/-- Specification of `clash?`: no name occurs twice, or the first repetition is reported with its
owner. -/
theorem clash?_cases (before schemas : List Schema) (distinct : (before.map moduleFile).Nodup) :
    (clash? before schemas = none ∧ ((before ++ schemas).map moduleFile).Nodup) ∨
    ∃ owner schema earlier later, clash? before schemas = some (owner, schema) ∧
      schemas = earlier ++ schema :: later ∧ ((before ++ earlier).map moduleFile).Nodup ∧
      owner ∈ before ++ earlier ∧ moduleFile owner = moduleFile schema := by
  induction schemas generalizing before with
  | nil => exact .inl ⟨rfl, by rwa [List.append_nil]⟩
  | cons schema schemas ih =>
    unfold clash?
    cases found : before.find? fun owner =>
        Name.moduleName owner.name == Name.moduleName schema.name with
    | some owner =>
      have taken := List.find?_some found
      exact .inr ⟨owner, schema, [], schemas, rfl, rfl, by rwa [List.append_nil],
        by simpa using List.mem_of_find?_eq_some found, moduleFile_inj.mpr (eq_of_beq taken)⟩
    | none =>
      have next : ((before ++ [schema]).map moduleFile).Nodup := by
        refine nodup_concat.mpr ⟨distinct, ?_⟩
        intro owner member same
        have free := List.find?_eq_none.mp found owner member
        exact free (beq_iff_eq.mpr (moduleFile_inj.mp same))
      have shape (earlier : List Schema) : before ++ [schema] ++ earlier =
          before ++ schema :: earlier := by simp
      rcases ih _ next with ⟨clear, distinct⟩ | ⟨owner, second, earlier, later, clash, rfl, others⟩
      · exact .inl ⟨clear, shape schemas ▸ distinct⟩
      · exact .inr ⟨owner, second, schema :: earlier, later, clash, rfl, shape earlier ▸ others⟩

theorem clear_iff_nodup : clash? [] schemas = none ↔ (schemas.map moduleFile).Nodup := by
  rcases clash?_cases [] schemas List.nodup_nil with
    ⟨clear, distinct⟩ | ⟨owner, schema, earlier, later, clash, rfl, -, member, same⟩
  · exact ⟨fun _ => distinct, fun _ => clear⟩
  · constructor
    · intro clear
      cases clash.symm.trans clear
    · intro distinct
      rw [List.append_cons, List.map_append, List.nodup_append] at distinct
      exact absurd same ((nodup_concat.mp distinct.1).2 owner member)

/-- A repeated module name splits the list at the first repetition and at the owner of that name. -/
theorem clash_of_repeated (repeated : ¬(schemas.map moduleFile).Nodup) :
    ∃ before owner between schema later,
      schemas = before ++ owner :: (between ++ schema :: later) ∧
      ((before ++ owner :: between).map moduleFile).Nodup ∧
      moduleFile owner = moduleFile schema ∧ clash? [] schemas = some (owner, schema) := by
  rcases clash?_cases [] schemas List.nodup_nil with
    ⟨-, distinct⟩ | ⟨owner, schema, earlier, later, clash, rfl, distinct, member, same⟩
  · exact absurd distinct repeated
  · obtain ⟨before, between, rfl⟩ := List.append_of_mem (by simpa using member)
    exact ⟨before, owner, between, schema, later, by simp, distinct, same, clash⟩

/-- The module that an export line names, if the line is one. -/
def exported? (line : Text) : Option Text :=
  (Text.after? "export * from './" line).bind (Text.before? "';")

/-- The modules named by the export lines of a text, in the order of the lines. -/
def exportsIn (text : Text) : List Text := (Text.splitOn '\n' text).filterMap exported?

/-- The line that exports the module of a schema. -/
def exportText (schema : Schema) : Text :=
  "export * from './" ++ Name.moduleName schema.name ++ "';"

theorem exported?_exportText (schema : Schema) :
    exported? (exportText schema) = some (Name.moduleName schema.name) := by
  unfold exported? exportText
  rw [List.append_assoc, Text.after?_append]
  exact Text.before?_append _ _

theorem exportLine_eq (schema : Schema) : exportLine schema = exportText schema ++ ['\n'] := by
  have mark : "';\n".toList = "';".toList ++ ['\n'] := by decide
  unfold exportLine exportText
  rw [mark]
  simp only [List.append_assoc]

theorem newLine_exportText (schema : Schema) : '\n' ∉ exportText schema := by
  intro member
  rcases List.mem_append.mp member with inside | inside
  · rcases List.mem_append.mp inside with inside | inside
    · revert inside
      decide
    · have holds := Name.isModuleChar_moduleName schema.name _ inside
      revert holds
      decide
  · revert inside
    decide

/-- The lines of the index that precede its exports. -/
def headingLines : List Text :=
  ["/**", " * Index file for generated TypeScript types", " */", []]

/-- `exportsIn` recovers from the index one module for each schema, in the order of the schemas. -/
theorem exportsIn_indexModule (schemas : List Schema) :
    exportsIn (indexModule schemas) = schemas.map fun schema => Name.moduleName schema.name := by
  have heading : indexHeader = headingLines.flatMap (· ++ ['\n']) := by decide
  have shape : indexModule schemas =
      (headingLines ++ schemas.map exportText).flatMap (· ++ ['\n']) := by
    rw [indexModule, heading, List.flatMap_append, List.flatMap_map, funext exportLine_eq]
  have free : ∀ piece ∈ headingLines ++ schemas.map exportText, '\n' ∉ piece := by
    intro piece member
    rcases List.mem_append.mp member with inside | inside
    · have lineless : ∀ line ∈ headingLines, '\n' ∉ line := by decide
      exact lineless piece inside
    · obtain ⟨schema, -, rfl⟩ := List.mem_map.mp inside
      exact newLine_exportText schema
  have undeclared : headingLines.filterMap exported? = [] := by decide
  have last : [[]].filterMap exported? = [] := by decide
  rw [exportsIn, shape, Text.splitOn_flatMap free, List.filterMap_append, List.filterMap_append,
    undeclared, last, List.nil_append, List.append_nil, List.filterMap_map, ← List.filterMap_eq_map]
  exact congrArg (schemas.filterMap ·) (funext exported?_exportText)

end TypedCatalog.Declaration
