import Mathlib.Data.List.Nodup
import TypedCatalog.Proofs.Declaration.Decodable

/-! Names of declarations as a Pascal-case stem and the mark of a `Role`. `Clash` lists the ways in
which two different labels have one text. -/
namespace TypedCatalog.Declaration

open Catalog

/-- The declarations of one routine. -/
inductive Aspect where
  | parameters
  | row
  | result
  deriving DecidableEq

def Aspect.mark : Aspect → Text
  | parameters => "Params"
  | row => "ResultRow"
  | result => "Result"

/-- The declarations of one object. -/
inductive Role where
  | table
  | query
  | view
  | enumeration
  | routine (isProcedure : Bool) (aspect : Aspect)
  deriving DecidableEq

namespace Role

/-- The text that a role appends to the stem. -/
def mark : Role → Text
  | table | enumeration => []
  | query => "QueryParams"
  | view => "View"
  | routine false aspect => aspect.mark
  | routine true aspect => procedureSuffix ++ aspect.mark

/-- The kinds of objects. -/
inductive Kind where
  | table
  | view
  | enumeration
  | routine (isProcedure : Bool)
  deriving DecidableEq

def kind : Role → Kind
  | table | query => .table
  | view => .view
  | enumeration => .enumeration
  | routine isProcedure _ => .routine isProcedure

def aspects : List Aspect := [.parameters, .row, .result]

def all : List Role :=
  [.table, .query, .view, .enumeration] ++ aspects.map (.routine false) ++
    aspects.map (.routine true)

theorem mem_all (role : Role) : role ∈ all := by
  cases role with
  | table => decide
  | query => decide
  | view => decide
  | enumeration => decide
  | routine isProcedure aspect => cases isProcedure <;> cases aspect <;> decide

/-- `Query` followed by the mark of parameters is the mark of a query. -/
theorem mark_query : query.mark = "Query".toList ++ (routine false .parameters).mark := by decide

theorem mark_procedure (aspect : Aspect) :
    (routine true aspect).mark = procedureSuffix ++ (routine false aspect).mark := rfl

theorem mark_of_plain {role : Role} (plain : role = table ∨ role = enumeration) :
    role.mark = [] := by
  rcases plain with rfl | rfl
  · rfl
  · rfl

/-- The possible pairs of roles of which the first mark is a suffix of the second. -/
inductive Ends : Role → Role → Prop where
  | plain {role other : Role} : role = table ∨ role = enumeration → Ends role other
  | same {role : Role} : Ends role role
  | query : Ends (routine false .parameters) query
  | procedure {aspect : Aspect} : Ends (routine false aspect) (routine true aspect)

theorem ends_of_suffix {role other : Role} (suffix : role.mark <:+ other.mark) :
    Ends role other := by
  have ways : ∀ role ∈ all, ∀ other ∈ all, role.mark <:+ other.mark →
      (role = table ∨ role = enumeration) ∨ role = other ∨
      (role = routine false .parameters ∧ other = query) ∨
      ∃ aspect ∈ aspects, role = routine false aspect ∧ other = routine true aspect := by decide
  rcases ways role (mem_all role) other (mem_all other) suffix with
    plain | rfl | ⟨rfl, rfl⟩ | ⟨aspect, -, rfl, rfl⟩
  · exact .plain plain
  · exact .same
  · exact .query
  · exact .procedure

end Role

/-- An object name with the role of a declaration. -/
structure Label where
  role : Role
  stem : Text
  deriving DecidableEq

def Label.text (label : Label) : Text := label.stem ++ label.role.mark

/-- The ways in which labels of different roles have one text: the stem of an unmarked table or
enumeration is the text of the other label, the stem of a function ends in `Query`, or it ends in
the suffix of procedures. -/
inductive Clash : Label → Label → Prop where
  | plain {label other : Label} : label.role = .table ∨ label.role = .enumeration →
      label.role ≠ other.role → label.stem = other.text → Clash label other
  | query {table : Text} :
      Clash ⟨.routine false .parameters, table ++ "Query"⟩ ⟨.query, table⟩
  | procedure {name : Text} {aspect : Aspect} :
      Clash ⟨.routine false aspect, name ++ procedureSuffix⟩ ⟨.routine true aspect, name⟩

namespace Clash

variable {label other : Label}

theorem text_eq (clash : Clash label other) : label.text = other.text := by
  cases clash with
  | plain plain _ same => rw [Label.text, Role.mark_of_plain plain, List.append_nil, same]
  | @query table =>
    change table ++ "Query".toList ++ _ = table ++ Role.query.mark
    rw [Role.mark_query, List.append_assoc]
  | @procedure name aspect =>
    change name ++ procedureSuffix ++ _ = name ++ (Role.routine true aspect).mark
    rw [Role.mark_procedure, List.append_assoc]

theorem role_ne (clash : Clash label other) : label.role ≠ other.role := by
  cases clash with
  | plain _ different _ => exact different
  | query =>
    intro same
    cases same
  | procedure =>
    intro same
    cases same

/-- If one mark is a suffix of the other, labels with one text are equal or `Clash`. -/
theorem of_suffix (suffix : label.role.mark <:+ other.role.mark) (same : label.text = other.text) :
    label = other ∨ Clash label other := by
  obtain ⟨role, stem⟩ := label
  obtain ⟨second, name⟩ := other
  have ends := Role.ends_of_suffix suffix
  cases ends with
  | plain plain =>
    -- A name without a mark is all stem, whatever the other one is made of.
    by_cases equal : role = second
    · subst equal
      exact .inl (congrArg _ (List.append_cancel_right same))
    · refine .inr (.plain plain equal ?_)
      rwa [Label.text, Role.mark_of_plain plain, List.append_nil] at same
  | same => exact .inl (congrArg _ (List.append_cancel_right same))
  | query =>
    change stem ++ _ = name ++ Role.query.mark at same
    rw [Role.mark_query, ← List.append_assoc] at same
    obtain rfl := List.append_cancel_right same
    exact .inr .query
  | @procedure aspect =>
    change stem ++ _ = name ++ (Role.routine true aspect).mark at same
    rw [Role.mark_procedure, ← List.append_assoc] at same
    obtain rfl := List.append_cancel_right same
    exact .inr .procedure

theorem of_text_eq (same : label.text = other.text) :
    label = other ∨ Clash label other ∨ Clash other label := by
  have first : label.role.mark <:+ label.text := List.suffix_append _ _
  have second : other.role.mark <:+ label.text := same ▸ List.suffix_append _ _
  rcases List.suffix_or_suffix_of_suffix first second with suffix | suffix
  · rcases of_suffix suffix same with equal | clash
    · exact .inl equal
    · exact .inr (.inl clash)
  · rcases of_suffix suffix same.symm with equal | clash
    · exact .inl equal.symm
    · exact .inr (.inr clash)

end Clash

/-- Different labels have pairwise different texts if and only if no two of them satisfy `Clash`. -/
theorem nodup_texts_iff {labels : List Label} (distinct : labels.Nodup) :
    (labels.map Label.text).Nodup ↔
      ∀ label ∈ labels, ∀ other ∈ labels, ¬Clash label other := by
  rw [List.nodup_map_iff_inj_on distinct]
  constructor
  · intro injective label member other inside clash
    exact clash.role_ne (congrArg _ (injective label member other inside clash.text_eq))
  · intro apart label member other inside same
    rcases Clash.of_text_eq same with equal | clash | clash
    · exact equal
    · exact absurd clash (apart label member other inside)
    · exact absurd clash (apart other inside label member)

/-- The labels of a list of records. -/
def labelsOf {α : Type} (roles : α → List Role) (name : α → Text) (records : List α) :
    List Label :=
  records.flatMap fun record => (roles record).map fun role => ⟨role, Name.pascal (name record)⟩

/-- The roles of a routine: parameters if it has inputs, a row if it has result columns, and a
result. -/
def routineRoles (isProcedure : Bool) (routine : Routine) : List Role :=
  let parameters := if routine.inputs.isEmpty then [] else [Aspect.parameters]
  let row := if (routine.returnColumns.getD []).isEmpty then [] else [Aspect.row]
  (parameters ++ row ++ [Aspect.result]).map (.routine isProcedure)

def labels (schema : Schema) : List Label :=
  labelsOf (fun _ => [.table, .query]) (·.name) schema.tables.records ++
  labelsOf (fun _ => [.view]) (·.name) schema.views.records ++
  labelsOf (fun _ => [.enumeration]) (·.name) schema.enums.records ++
  labelsOf (routineRoles false) (·.name) schema.functions.records ++
  labelsOf (routineRoles true) (·.name) schema.procedures.records

/-- The Pascal-case names of the objects of each kind are pairwise different. -/
structure KindsApart (schema : Schema) : Prop where
  tables : (schema.tables.records.map fun table => Name.pascal table.name).Nodup
  views : (schema.views.records.map fun view => Name.pascal view.name).Nodup
  enums : (schema.enums.records.map fun held => Name.pascal held.name).Nodup
  functions : (schema.functions.records.map fun routine => Name.pascal routine.name).Nodup
  procedures : (schema.procedures.records.map fun routine => Name.pascal routine.name).Nodup

instance (schema : Schema) : Decidable (KindsApart schema) :=
  decidable_of_iff
    ((schema.tables.records.map fun table => Name.pascal table.name).Nodup ∧
      (schema.views.records.map fun view => Name.pascal view.name).Nodup ∧
      (schema.enums.records.map fun held => Name.pascal held.name).Nodup ∧
      (schema.functions.records.map fun routine => Name.pascal routine.name).Nodup ∧
      (schema.procedures.records.map fun routine => Name.pascal routine.name).Nodup)
    ⟨fun all => ⟨all.1, all.2.1, all.2.2.1, all.2.2.2.1, all.2.2.2.2⟩,
      fun apart => ⟨apart.tables, apart.views, apart.enums, apart.functions, apart.procedures⟩⟩

/-- The labels are pairwise different, and their roles belong to the given kinds. -/
structure OfKinds (kinds : List Role.Kind) (labels : List Label) : Prop where
  nodup : labels.Nodup
  inside : ∀ label ∈ labels, label.role.kind ∈ kinds

theorem ofKinds_labelsOf {α : Type} {roles : α → List Role} {name : α → Text} {records : List α}
    {kind : Role.Kind} (once : ∀ record, (roles record).Nodup)
    (ofKind : ∀ record, ∀ role ∈ roles record, role.kind = kind)
    (apart : (records.map fun record => Name.pascal (name record)).Nodup) :
    OfKinds [kind] (labelsOf roles name records) := by
  constructor
  · rw [labelsOf, List.nodup_flatMap]
    constructor
    · intro record _
      exact (once record).map fun _ _ same => congrArg Label.role same
    · rw [List.Nodup, List.pairwise_map] at apart
      refine apart.imp fun {record other} different => ?_
      intro label member again
      obtain ⟨_, -, rfl⟩ := List.mem_map.mp member
      obtain ⟨_, -, same⟩ := List.mem_map.mp again
      exact different (congrArg Label.stem same).symm
  · intro label member
    obtain ⟨record, -, member⟩ := List.mem_flatMap.mp member
    obtain ⟨role, inside, rfl⟩ := List.mem_map.mp member
    exact List.mem_singleton.mpr (ofKind record role inside)

theorem OfKinds.append {kinds : List Role.Kind} {kind : Role.Kind} {first second : List Label}
    (one : OfKinds kinds first) (two : OfKinds [kind] second) (fresh : kind ∉ kinds) :
    OfKinds (kind :: kinds) (first ++ second) := by
  have ofKind (label : Label) (member : label ∈ second) : label.role.kind = kind :=
    List.mem_singleton.mp (two.inside label member)
  constructor
  · apply one.nodup.append two.nodup
    intro label member again
    exact fresh (ofKind label again ▸ one.inside label member)
  · intro label member
    rcases List.mem_append.mp member with member | member
    · exact .tail _ (one.inside label member)
    · rw [ofKind label member]
      exact .head _

theorem ofKinds_routines (isProcedure : Bool) {routines : List Routine}
    (apart : (routines.map fun routine => Name.pascal routine.name).Nodup) :
    OfKinds [.routine isProcedure] (labelsOf (routineRoles isProcedure) (·.name) routines) := by
  refine ofKinds_labelsOf ?_ ?_ apart
  · intro routine
    unfold routineRoles
    apply List.Nodup.map
    · intro aspect other same
      cases same
      rfl
    · split <;> split <;> decide
  · intro routine role member
    obtain ⟨aspect, -, rfl⟩ := List.mem_map.mp member
    rfl

theorem nodup_labels {schema : Schema} (apart : KindsApart schema) : (labels schema).Nodup := by
  have tables : OfKinds [.table]
      (labelsOf (fun _ => [.table, .query]) (·.name) schema.tables.records) :=
    ofKinds_labelsOf (fun _ => by decide) (fun _ => by decide) apart.tables
  have views : OfKinds [.view] (labelsOf (fun _ => [.view]) (·.name) schema.views.records) :=
    ofKinds_labelsOf (fun _ => by decide) (fun _ => by decide) apart.views
  have enums : OfKinds [.enumeration]
      (labelsOf (fun _ => [.enumeration]) (·.name) schema.enums.records) :=
    ofKinds_labelsOf (fun _ => by decide) (fun _ => by decide) apart.enums
  have relations := (tables.append views (by decide)).append enums (by decide)
  have functions := relations.append (ofKinds_routines false apart.functions) (by decide)
  exact (functions.append (ofKinds_routines true apart.procedures) (by decide)).nodup

theorem map_text_labelsOf {α : Type} (roles : α → List Role) (name : α → Text)
    (records : List α) : (labelsOf roles name records).map Label.text =
      records.flatMap fun record =>
        (roles record).map fun role => Name.pascal (name record) ++ role.mark := by
  simp only [labelsOf, List.map_flatMap, List.map_map, Function.comp_def, Label.text]

theorem names_parametersOf (base : Text) (routine : Routine) :
    (parametersOf base routine).map Declaration.name =
      if routine.inputs.isEmpty then [] else [base ++ Aspect.parameters.mark] := by
  unfold parametersOf
  split
  · rfl
  · rfl

theorem names_resultOf (base : Text) (routine : Routine) :
    (resultOf base routine).map Declaration.name =
      (if (routine.returnColumns.getD []).isEmpty then [] else [base ++ Aspect.row.mark]) ++
        [base ++ Aspect.result.mark] := by
  unfold resultOf
  split
  · rename_i columns
    rw [columns]
    rfl
  · rename_i columns
    rw [columns]
    split
    · rfl
    · split
      · rfl
      · rfl

theorem names_ofRoutine (isProcedure : Bool) {suffix : Text}
    (marked : ∀ aspect, (Role.routine isProcedure aspect).mark = suffix ++ aspect.mark)
    (routine : Routine) : (ofRoutine suffix routine).map Declaration.name =
      (routineRoles isProcedure routine).map fun role =>
        Name.pascal routine.name ++ role.mark := by
  unfold ofRoutine routineRoles
  rw [List.map_append, names_parametersOf, names_resultOf, List.map_map]
  simp only [Function.comp_def, marked, List.map_append, List.append_assoc, apply_ite (List.map _),
    List.map_cons, List.map_nil]

theorem names_bareDeclarations (schema : Schema) :
    (bareDeclarations schema).map Declaration.name = (labels schema).map Label.text := by
  rw [bareDeclarations_eq]
  unfold labels
  have functions (routine : Routine) : (ofRoutine [] routine).map Declaration.name = _ :=
    names_ofRoutine false (fun _ => rfl) routine
  have procedures (routine : Routine) :
      (ofRoutine procedureSuffix routine).map Declaration.name = _ :=
    names_ofRoutine true (fun _ => rfl) routine
  have table (name : Text) : Name.pascal name ++ Role.table.mark = Name.pascal name :=
    List.append_nil _
  have enum (name : Text) : Name.pascal name ++ Role.enumeration.mark = Name.pascal name :=
    List.append_nil _
  simp only [List.map_append, map_text_labelsOf, List.map_flatMap, functions, procedures,
    List.map_cons, List.map_nil, table, enum, bare_ofTable, ← List.map_eq_flatMap, List.map_map]
  rfl

/-- The names decoded from a module are the texts of `labels`. -/
theorem names_schemaModule (schema : Schema) : ∃ body declarations,
    schemaModule schema = header schema.name ++ body ∧ readModule body = some declarations ∧
    declarations.map Declaration.name = (labels schema).map Label.text :=
  ⟨(sections schema).flatMap Section.text, bareDeclarations schema, rfl, readModule_sections schema,
    names_bareDeclarations schema⟩

/-- Under `KindsApart` the names decoded from a module are pairwise different if and only if no two
of its `labels` satisfy `Clash`. -/
theorem nodup_names_iff {schema : Schema} (apart : KindsApart schema) :
    ∃ body declarations, schemaModule schema = header schema.name ++ body ∧
      readModule body = some declarations ∧
      ((declarations.map Declaration.name).Nodup ↔
        ∀ label ∈ labels schema, ∀ other ∈ labels schema, ¬Clash label other) := by
  obtain ⟨body, declarations, shape, read, names⟩ := names_schemaModule schema
  refine ⟨body, declarations, shape, read, ?_⟩
  rw [names]
  exact nodup_texts_iff (nodup_labels apart)

def relationNamed (name : Text) : Relation := { name, schema := "s" }

def routineNamed (name : Text) : Routine := { name, schema := "s" }

/-- One name for one object of every kind but enumerations, without a `Clash`. -/
def sharing : Schema where
  name := "s"
  tables := [("user", relationNamed "user")]
  views := [("user", relationNamed "user")]
  functions := [("user", routineNamed "user")]
  procedures := [("user", routineNamed "user")]

theorem nodup_names_sharing : KindsApart sharing ∧
    ∃ body declarations, schemaModule sharing = header sharing.name ++ body ∧
      readModule body = some declarations ∧ (declarations.map Declaration.name).Nodup := by
  have apart : KindsApart sharing := by decide
  obtain ⟨body, declarations, shape, read, distinct⟩ := nodup_names_iff apart
  have free := (nodup_texts_iff (nodup_labels apart)).mp (by decide)
  exact ⟨apart, body, declarations, shape, read, distinct.mpr free⟩

/-- Table `user_view` and view `user`. -/
def colliding : Schema where
  name := "s"
  tables := [("user_view", relationNamed "user_view")]
  views := [("user", relationNamed "user")]

/-- The suffix `View` does not separate views from tables: `colliding` declares one name twice. -/
theorem colliding_names : KindsApart colliding ∧ (∀ label ∈ labels colliding, label.stem ≠ []) ∧
    ∃ body declarations, schemaModule colliding = header colliding.name ++ body ∧
      readModule body = some declarations ∧ ¬(declarations.map Declaration.name).Nodup := by
  refine ⟨by decide, by decide, ?_⟩
  obtain ⟨body, declarations, shape, read, names⟩ := names_schemaModule colliding
  refine ⟨body, declarations, shape, read, ?_⟩
  rw [names]
  decide

end TypedCatalog.Declaration
