import TypedCatalog.Catalog.Reader
import TypedCatalog.Proofs.Declaration.Names

/-! Which declared names are identifiers. Pascal case keeps letters and digits only, so a name may
start with a digit, and may be empty where no mark follows. -/
namespace TypedCatalog.Declaration

open Catalog

variable {name : Text}

/-- The first alphanumeric character is a letter. -/
def LeadsWithLetter (name : Text) : Prop :=
  ∃ c ∈ name.find? Text.isAlnum, Text.isDigit c = false

/-- The first alphanumeric character is a digit. -/
def LeadsWithDigit (name : Text) : Prop :=
  ∃ c ∈ name.find? Text.isAlnum, Text.isDigit c = true

theorem LeadsWithLetter.not_digit (letter : LeadsWithLetter name) : ¬LeadsWithDigit name := by
  rintro ⟨c, found, digit⟩
  obtain ⟨d, same, letter⟩ := letter
  cases found.symm.trans same
  exact absurd digit (by simp [letter])

theorem Role.isName_mark (role : Role) : IsName role.mark := by
  have marks : (all.all fun role => role.mark.all Text.isAlnum) = true := rfl
  exact List.all_eq_true.mp (List.all_eq_true.mp marks role (mem_all role))

/-- Marks do not start with a digit. -/
theorem Role.head_mark (role : Role) : ∀ c ∈ role.mark.head?, Text.isDigit c = false := by
  have marks : (all.all fun role => role.mark.head?.all fun c => !Text.isDigit c) = true := rfl
  have mark := List.all_eq_true.mp marks role (mem_all role)
  intro c first
  rw [Option.mem_def.mp first, Option.all_some, Bool.not_eq_true'] at mark
  exact mark

theorem isName_label (role : Role) (name : Text) : IsName (Name.pascal name ++ role.mark) :=
  fun c member => (List.mem_append.mp member).elim (isName_pascal name c) (role.isName_mark c)

/-- Whether a label is an identifier depends on the first alphanumeric character of the name. -/
theorem isIdentifier_label (role : Role) (name : Text) :
    Name.isIdentifier (Name.pascal name ++ role.mark) = true ↔
      match name.find? Text.isAlnum with
      | some c => Text.isDigit c = false
      | none => role.mark ≠ [] := by
  have head := Name.head?_pascal name
  rw [Name.isIdentifier_iff (isName_label role name), List.head?_append, head]
  cases name.find? Text.isAlnum with
  | some c => simp [Text.isDigit_upperAscii c]
  | none =>
    have letter := role.head_mark
    cases shape : role.mark with
    | nil => simp
    | cons d rest =>
      rw [shape] at letter
      simpa using letter d rfl

theorem isIdentifier_plain (role : Role) (plain : role.mark = []) :
    Name.isIdentifier (Name.pascal name ++ role.mark) = true ↔ LeadsWithLetter name := by
  rw [isIdentifier_label, LeadsWithLetter]
  cases name.find? Text.isAlnum with
  | some c => simp
  | none => simp [plain]

theorem isIdentifier_marked (role : Role) (marked : role.mark ≠ []) :
    Name.isIdentifier (Name.pascal name ++ role.mark) = true ↔ ¬LeadsWithDigit name := by
  rw [isIdentifier_label, LeadsWithDigit]
  cases name.find? Text.isAlnum with
  | some c => simp
  | none => simp [marked]

/-- No object name satisfies `LeadsWithDigit`, and names of tables and enumerations, whose marks are
empty, satisfy `LeadsWithLetter`. -/
structure NamesFit (schema : Schema) : Prop where
  tables : ∀ table ∈ schema.tables.records, LeadsWithLetter table.name
  views : ∀ view ∈ schema.views.records, ¬LeadsWithDigit view.name
  enums : ∀ held ∈ schema.enums.records, LeadsWithLetter held.name
  functions : ∀ routine ∈ schema.functions.records, ¬LeadsWithDigit routine.name
  procedures : ∀ routine ∈ schema.procedures.records, ¬LeadsWithDigit routine.name

/-- The texts of all labels are identifiers. -/
def AreIdentifiers (labels : List Label) : Prop :=
  ∀ label ∈ labels, Name.isIdentifier label.text = true

theorem areIdentifiers_append (first second : List Label) :
    AreIdentifiers (first ++ second) ↔ AreIdentifiers first ∧ AreIdentifiers second :=
  List.forall_mem_append

theorem areIdentifiers_labelsOf {α : Type} {roles : α → List Role} {name : α → Text}
    {fits : α → Prop} {records : List α}
    (each : ∀ record, (∀ role ∈ roles record,
      Name.isIdentifier (Name.pascal (name record) ++ role.mark) = true) ↔ fits record) :
    AreIdentifiers (labelsOf roles name records) ↔ ∀ record ∈ records, fits record := by
  simp only [AreIdentifiers, labelsOf, List.forall_mem_flatMap, List.forall_mem_map, Label.text,
    each]

theorem areIdentifiers_routines (isProcedure : Bool) (routines : List Routine) :
    AreIdentifiers (labelsOf (routineRoles isProcedure) (·.name) routines) ↔
      ∀ routine ∈ routines, ¬LeadsWithDigit routine.name := by
  have marked (aspect : Aspect) : (Role.routine isProcedure aspect).mark ≠ [] := by
    cases isProcedure <;> cases aspect <;> decide
  apply areIdentifiers_labelsOf
  intro routine
  constructor
  · intro all
    -- a result is declared for every routine
    have result : Role.routine isProcedure .result ∈ routineRoles isProcedure routine :=
      List.mem_map_of_mem (List.mem_append_right _ List.mem_cons_self)
    exact (isIdentifier_marked _ (marked .result)).mp (all _ result)
  · intro leads role member
    obtain ⟨aspect, -, rfl⟩ := List.mem_map.mp member
    exact (isIdentifier_marked _ (marked aspect)).mpr leads

theorem areIdentifiers_labels (schema : Schema) :
    AreIdentifiers (labels schema) ↔ NamesFit schema := by
  have query : Role.query.mark ≠ [] := by decide
  have marked : Role.view.mark ≠ [] := by decide
  have tables : AreIdentifiers
      (labelsOf (fun _ => [.table, .query]) (·.name) schema.tables.records) ↔
        ∀ table ∈ schema.tables.records, LeadsWithLetter table.name := by
    apply areIdentifiers_labelsOf
    intro table
    rw [List.forall_mem_cons, List.forall_mem_singleton, isIdentifier_plain .table rfl,
      isIdentifier_marked .query query]
    exact and_iff_left_of_imp LeadsWithLetter.not_digit
  have views : AreIdentifiers (labelsOf (fun _ => [.view]) (·.name) schema.views.records) ↔
      ∀ view ∈ schema.views.records, ¬LeadsWithDigit view.name := by
    apply areIdentifiers_labelsOf
    intro view
    rw [List.forall_mem_singleton, isIdentifier_marked .view marked]
  have enums : AreIdentifiers
      (labelsOf (fun _ => [.enumeration]) (·.name) schema.enums.records) ↔
        ∀ held ∈ schema.enums.records, LeadsWithLetter held.name := by
    apply areIdentifiers_labelsOf
    intro held
    rw [List.forall_mem_singleton, isIdentifier_plain .enumeration rfl]
  simp only [labels, areIdentifiers_append, tables, views, enums, areIdentifiers_routines]
  constructor
  · rintro ⟨⟨⟨⟨tables, views⟩, enums⟩, functions⟩, procedures⟩
    exact ⟨tables, views, enums, functions, procedures⟩
  · rintro ⟨tables, views, enums, functions, procedures⟩
    exact ⟨⟨⟨⟨tables, views⟩, enums⟩, functions⟩, procedures⟩

/-- All names decoded from a module are identifiers if and only if the schema satisfies
`NamesFit`. -/
theorem identifiers_iff (schema : Schema) : ∃ body declarations,
    schemaModule schema = header schema.name ++ body ∧ readModule body = some declarations ∧
      ((∀ declaration ∈ declarations, Name.isIdentifier declaration.name = true) ↔
        NamesFit schema) := by
  obtain ⟨body, declarations, shape, read, names⟩ := names_schemaModule schema
  refine ⟨body, declarations, shape, read, ?_⟩
  rw [← areIdentifiers_labels]
  have through : (∀ name ∈ declarations.map Declaration.name, Name.isIdentifier name = true) ↔
      ∀ name ∈ (labels schema).map Label.text, Name.isIdentifier name = true := by rw [names]
  rwa [List.forall_mem_map, List.forall_mem_map] at through

/-- A document with a table whose name starts with a digit. -/
def numberedDocument : Value :=
  .dict [(.str "name", .str "s"), (.str "tables", .list
    [.dict [(.str "name", .str "2fa_codes"), (.str "schema", .str "s")]])]

def numbered : Schema where
  name := "s"
  tables := [("2fa_codes", relationNamed "2fa_codes")]

/-- `numberedDocument` parses, and its module declares a name that is no identifier. -/
theorem numbered_names : Schema.read numberedDocument = .ok numbered ∧ ∃ body declarations,
    schemaModule numbered = header numbered.name ++ body ∧ readModule body = some declarations ∧
      ¬∀ declaration ∈ declarations, Name.isIdentifier declaration.name = true := by
  refine ⟨rfl, ?_⟩
  obtain ⟨body, declarations, shape, read, names⟩ := names_schemaModule numbered
  refine ⟨body, declarations, shape, read, ?_⟩
  intro all
  have each : ∀ name ∈ declarations.map Declaration.name, Name.isIdentifier name = true :=
    List.forall_mem_map.mpr all
  rw [names] at each
  revert each
  decide

end TypedCatalog.Declaration
