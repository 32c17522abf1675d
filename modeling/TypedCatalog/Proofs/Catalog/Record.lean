import TypedCatalog.Catalog.Reader
import TypedCatalog.Proofs.Fault
import TypedCatalog.Proofs.Text.Case
import TypedCatalog.Proofs.Value.Documents

/-! `IsRecord`, the invariant of records that were read: required texts are not empty, modes and
kinds are in their canonical case, and registers are keyed by name. -/
namespace TypedCatalog.Catalog

open Json (IsDocument)

structure Column.IsRecord (column : Column) : Prop where
  name : column.name ≠ []
  type : column.type ≠ []

structure Relation.IsRecord (relation : Relation) : Prop where
  name : relation.name ≠ []
  columns : ∀ column ∈ relation.columns, column.IsRecord

structure Enumeration.IsRecord (enumeration : Enumeration) : Prop where
  name : enumeration.name ≠ []

structure Parameter.IsRecord (parameter : Parameter) : Prop where
  name : parameter.name ≠ []
  type : parameter.type ≠ []
  mode : parameter.mode ≠ []
  capitals : Text.upper parameter.mode = parameter.mode

structure ResultColumn.IsRecord (column : ResultColumn) : Prop where
  name : column.name ≠ []
  type : column.type ≠ []

structure Routine.IsRecord (routine : Routine) : Prop where
  name : routine.name ≠ []
  kind : Text.lower routine.kind = routine.kind
  objectKind : Text.lower routine.objectKind = routine.objectKind
  parameters : ∀ parameter ∈ routine.parameters, parameter.IsRecord
  returnColumns : ∀ columns, routine.returnColumns = some columns →
    ∀ column ∈ columns, column.IsRecord
  description : IsDocument routine.description

/-- Every key is the name of its record, keys are unique, and all records satisfy the predicate. -/
structure Register.IsKeyed {α : Type} (name : α → Text) (holds : α → Prop)
    (register : Register α) : Prop where
  names : ∀ entry ∈ register, entry.1 = name entry.2
  distinct : (register.map Prod.fst).Nodup
  records : ∀ entry ∈ register, holds entry.2

structure Schema.IsRecord (schema : Schema) : Prop where
  name : schema.name ≠ []
  tables : schema.tables.IsKeyed (·.name) Relation.IsRecord
  views : schema.views.IsKeyed (·.name) Relation.IsRecord
  enums : schema.enums.IsKeyed (·.name) Enumeration.IsRecord
  functions : schema.functions.IsKeyed (·.name) Routine.IsRecord
  procedures : schema.procedures.IsKeyed (·.name) Routine.IsRecord
  triggers : schema.triggers.IsKeyed (·.name) Routine.IsRecord

variable {entries : Value.Entries} {data : Value} {kind key text : Text}

theorem mapping_ok (document : IsDocument data) (run : mapping kind data = .ok entries) :
    IsDocument (.dict entries) := by
  unfold mapping at run
  split at run
  · cases run
    exact document
  · cases run

theorem required_ok (document : IsDocument (.dict entries))
    (run : required kind entries key = .ok text) : text ≠ [] := by
  unfold required at run
  cases found : Value.lookup? key entries with
  | none =>
    rw [found] at run
    obtain ⟨field, -, run⟩ := bind_ok run
    cases run
  | some value =>
    rw [found, Option.getD_some] at run
    have document := document.lookup found
    split at run
    · obtain ⟨field, -, run⟩ := bind_ok run
      cases run
    · obtain ⟨field, -, run⟩ := bind_ok run
      cases run
    · rename_i other
      rw [document.text] at run
      cases run
      exact document.shown_ne_nil other

theorem fieldOf_ok {spellings : List Text} {value : Value} (document : IsDocument (.dict entries))
    (found : fieldOf entries spellings = some value) : IsDocument value := by
  induction spellings with
  | nil => cases found
  | cons name names ih =>
    unfold fieldOf at found
    split at found
    · exact ih found
    · exact ih found
    · rename_i held
      cases found
      exact document.lookup held

variable {α : Type} {read : Value → Except Fault α} {name : α → Text} {holds : α → Prop}

theorem mapM_holds {items : List Value} {records : List α}
    (documents : ∀ item ∈ items, IsDocument item)
    (sound : ∀ item record, IsDocument item → read item = .ok record → holds record)
    (run : items.mapM read = .ok records) : ∀ record ∈ records, holds record := by
  intro record member
  obtain ⟨item, inside, done⟩ := mapM_ok run record member
  exact sound item record (documents item inside) done

theorem readAll_holds {held : Option Value} {records : List α}
    (documents : ∀ value, held = some value → IsDocument value)
    (sound : ∀ item record, IsDocument item → read item = .ok record → holds record)
    (run : readAll read held = .ok records) : ∀ record ∈ records, holds record := by
  unfold readAll at run
  split at run
  · cases run
    intro record member
    cases member
  · rename_i value
    split at run
    · obtain ⟨items, listed, run⟩ := bind_ok run
      exact mapM_holds ((documents value rfl).items listed) sound run
    · cases run
      intro record member
      cases member

namespace Register

theorem IsKeyed.nil : IsKeyed name holds [] :=
  ⟨List.forall_mem_nil _, List.nodup_nil, List.forall_mem_nil _⟩

theorem mem_put {register : Register α} {record : α} {entry : Text × α}
    (member : entry ∈ register.put key record) : entry ∈ register ∨ entry = (key, record) := by
  induction register with
  | nil => exact .inr (List.mem_singleton.mp member)
  | cons first rest ih =>
    unfold put at member
    split at member
    · rcases List.mem_cons.mp member with same | member
      · exact .inr same
      · exact .inl (List.mem_cons_of_mem _ member)
    · rcases List.mem_cons.mp member with rfl | member
      · exact .inl List.mem_cons_self
      · exact (ih member).imp_left (List.mem_cons_of_mem _)

theorem keys_put (register : Register α) (record : α) :
    (register.put key record).map Prod.fst =
      if key ∈ register.map Prod.fst then register.map Prod.fst
      else register.map Prod.fst ++ [key] := by
  induction register with
  | nil => rfl
  | cons first rest ih =>
    by_cases same : first.1 = key
    · simp [put, same]
    · by_cases inside : key ∈ rest.map Prod.fst
      · simp only [put, same, if_false, List.map_cons, ih, inside, if_true, List.mem_cons, or_true]
      · simp only [put, same, Ne.symm same, if_false, List.map_cons, ih, inside, List.mem_cons,
          or_false, List.cons_append]

theorem IsKeyed.put {register : Register α} {record : α} (keyed : register.IsKeyed name holds)
    (sound : holds record) : (register.put (name record) record).IsKeyed name holds := by
  constructor
  · intro entry member
    rcases mem_put member with inside | rfl
    · exact keyed.names entry inside
    · rfl
  · rw [keys_put]
    split
    · exact keyed.distinct
    · rename_i new
      refine List.nodup_append.mpr ⟨keyed.distinct, List.pairwise_singleton _ _, ?_⟩
      rintro other inside _ same rfl
      rw [List.mem_singleton.mp same] at inside
      exact new inside
  · intro entry member
    rcases mem_put member with inside | rfl
    · exact keyed.records entry inside
    · exact sound

theorem isKeyed_ofRecords {records : List α} (sound : ∀ record ∈ records, holds record) :
    (ofRecords name records).IsKeyed name holds := by
  have general : ∀ register : Register α, register.IsKeyed name holds →
      (records.foldl (fun register record => register.put (name record) record) register).IsKeyed
        name holds := by
    induction records with
    | nil =>
      intro register keyed
      exact keyed
    | cons record records ih =>
      intro register keyed
      obtain ⟨first, others⟩ := List.forall_mem_cons.mp sound
      exact ih others _ (keyed.put first)
  exact general [] .nil

theorem put_new {register : Register α} {record : α} (new : key ∉ register.map Prod.fst) :
    register.put key record = register ++ [(key, record)] := by
  induction register with
  | nil => rfl
  | cons first rest ih =>
    rw [List.map_cons, List.mem_cons, not_or] at new
    rw [put, if_neg (Ne.symm new.1), ih new.2]
    rfl

/-- `ofRecords` of the records of a keyed register is that register. -/
theorem IsKeyed.ofRecords {register : Register α} (keyed : register.IsKeyed name holds) :
    ofRecords name register.records = register := by
  have general : ∀ held left : Register α, (held ++ left).IsKeyed name holds →
      left.records.foldl (fun register record => Register.put register (name record) record) held =
        held ++ left := by
    intro held left keyed
    induction left generalizing held with
    | nil => exact (List.append_nil held).symm
    | cons entry left ih =>
      have same : name entry.2 = entry.1 :=
        (keyed.names entry (List.mem_append_right _ List.mem_cons_self)).symm
      have new : entry.1 ∉ held.map Prod.fst := by
        have distinct := keyed.distinct
        rw [List.map_append, List.map_cons] at distinct
        intro inside
        exact (List.nodup_append.mp distinct).2.2 _ inside _ List.mem_cons_self rfl
      have next := ih (held ++ [entry]) (by rwa [List.append_assoc])
      rw [List.append_assoc] at next
      rw [Register.records, List.map_cons, List.foldl_cons, same, put_new new]
      exact next
  exact general [] register keyed

end Register

theorem membersOf_documents {members : List Value} (document : IsDocument data)
    (found : membersOf data = .ok members) : ∀ member ∈ members, IsDocument member := by
  intro member inside
  unfold membersOf at found
  split at found
  · cases found
    obtain ⟨fields, rfl, -, documents⟩ := document.fields
    rw [List.map_map] at inside
    obtain ⟨field, held, rfl⟩ := List.mem_map.mp inside
    exact documents field held
  · exact document.items found member inside

theorem readGroup_keyed {held : Option Value} {register : Register α}
    (documents : ∀ value, held = some value → IsDocument value)
    (sound : ∀ item record, IsDocument item → read item = .ok record → holds record)
    (run : readGroup read name held = .ok register) : register.IsKeyed name holds := by
  unfold readGroup at run
  split at run
  · cases run
    exact .nil
  · rename_i value
    have document := documents value rfl
    split at run
    · obtain ⟨members, listed, run⟩ := bind_ok run
      obtain ⟨records, done, run⟩ := bind_ok run
      cases run
      exact Register.isKeyed_ofRecords
        (mapM_holds (membersOf_documents document listed) sound done)
    · cases run
      exact .nil

theorem Column.isRecord_read {column : Column} (document : IsDocument data)
    (run : Column.read data = .ok column) : column.IsRecord := by
  unfold Column.read at run
  obtain ⟨entries, mapped, run⟩ := bind_ok run
  have fields := mapping_ok document mapped
  obtain ⟨name, named, run⟩ := bind_ok run
  obtain ⟨type, typed, run⟩ := bind_ok run
  obtain ⟨references, _, run⟩ := bind_ok run
  cases run
  exact ⟨required_ok fields named, required_ok fields typed⟩

theorem Relation.isRecord_read {relation : Relation} (document : IsDocument data)
    (run : Relation.read kind data = .ok relation) : relation.IsRecord := by
  unfold Relation.read at run
  obtain ⟨entries, mapped, run⟩ := bind_ok run
  have fields := mapping_ok document mapped
  obtain ⟨name, named, run⟩ := bind_ok run
  obtain ⟨schema, _, run⟩ := bind_ok run
  obtain ⟨columns, listed, run⟩ := bind_ok run
  cases run
  exact ⟨required_ok fields named,
    readAll_holds (fun _ => fields.lookup) (fun _ _ => Column.isRecord_read) listed⟩

theorem Enumeration.isRecord_read {enumeration : Enumeration} (document : IsDocument data)
    (run : Enumeration.read data = .ok enumeration) : enumeration.IsRecord := by
  unfold Enumeration.read at run
  obtain ⟨entries, mapped, run⟩ := bind_ok run
  have fields := mapping_ok document mapped
  obtain ⟨name, named, run⟩ := bind_ok run
  obtain ⟨schema, _, run⟩ := bind_ok run
  obtain ⟨values, _, run⟩ := bind_ok run
  cases run
  exact ⟨required_ok fields named⟩

theorem modeOf_ok (document : IsDocument (.dict entries)) (run : modeOf entries = .ok text) :
    text ≠ [] ∧ Text.upper text = text := by
  unfold modeOf at run
  split at run
  · cases run
    decide
  · rename_i mode found
    have document := document.lookup found
    split at run
    · rename_i truthy
      have other : mode ≠ .str [] := by
        rintro rfl
        cases truthy
      rw [document.text] at run
      cases run
      exact ⟨Text.upper_ne_nil (document.shown_ne_nil other), Text.upper_upper _⟩
    · cases run
      decide

theorem loweredField_ok {spellings : List Text} {default : Text}
    (run : loweredField entries spellings default = .ok text) : Text.lower text = text := by
  obtain ⟨field, -, rfl⟩ := map_ok run
  exact Text.lower_lower field

theorem Parameter.isRecord_read {parameter : Parameter} (document : IsDocument data)
    (run : Parameter.read data = .ok parameter) : parameter.IsRecord := by
  unfold Parameter.read at run
  obtain ⟨default, _, run⟩ := bind_ok run
  obtain ⟨entries, mapped, run⟩ := bind_ok run
  have fields := mapping_ok document mapped
  obtain ⟨name, named, run⟩ := bind_ok run
  obtain ⟨type, typed, run⟩ := bind_ok run
  obtain ⟨mode, moded, run⟩ := bind_ok run
  obtain ⟨defaultValue, _, run⟩ := bind_ok run
  cases run
  have ⟨nonempty, capitals⟩ := modeOf_ok fields moded
  exact ⟨required_ok fields named, required_ok fields typed, nonempty, capitals⟩

theorem ResultColumn.isRecord_read {column : ResultColumn} (document : IsDocument data)
    (run : ResultColumn.read data = .ok column) : column.IsRecord := by
  unfold ResultColumn.read at run
  obtain ⟨entries, mapped, run⟩ := bind_ok run
  have fields := mapping_ok document mapped
  obtain ⟨name, named, run⟩ := bind_ok run
  obtain ⟨type, typed, run⟩ := bind_ok run
  cases run
  exact ⟨required_ok fields named, required_ok fields typed⟩

theorem Routine.isRecord_read {routine : Routine} (document : IsDocument data)
    (run : Routine.read data = .ok routine) : routine.IsRecord := by
  unfold Routine.read at run
  obtain ⟨columns, picked, run⟩ := bind_ok run
  obtain ⟨returnType, _, run⟩ := bind_ok run
  obtain ⟨entries, mapped, run⟩ := bind_ok run
  have fields := mapping_ok document mapped
  obtain ⟨name, named, run⟩ := bind_ok run
  obtain ⟨schema, _, run⟩ := bind_ok run
  obtain ⟨kind, lowered, run⟩ := bind_ok run
  obtain ⟨objectKind, loweredToo, run⟩ := bind_ok run
  obtain ⟨parameters, listed, run⟩ := bind_ok run
  obtain ⟨returnText, _, run⟩ := bind_ok run
  have nonempty := required_ok fields named
  have small := loweredField_ok lowered
  have smallObject := loweredField_ok loweredToo
  have inputs := readAll_holds (fun _ => fields.lookup) (fun _ _ => Parameter.isRecord_read) listed
  have description : IsDocument ((fieldOf entries ["description"]).getD .null) := by
    cases found : fieldOf entries ["description"] with
    | none => exact .null
    | some value => exact fieldOf_ok fields found
  cases columns with
  | none =>
    cases run
    exact ⟨nonempty, small, smallObject, inputs,
      (fun _ same => nomatch same), description⟩
  | some columns =>
    obtain ⟨items, listed, run⟩ := bind_ok run
    obtain ⟨returnColumns, mapped, run⟩ := bind_ok run
    obtain ⟨records, done, same⟩ := map_ok mapped
    cases same
    cases run
    refine ⟨nonempty, small, smallObject, inputs, ?_, description⟩
    rintro found same
    cases same
    exact mapM_holds ((document.pick picked).items listed)
      (fun _ _ => ResultColumn.isRecord_read) done

theorem Schema.isRecord_read {schema : Schema} (document : IsDocument data)
    (run : Schema.read data = .ok schema) : schema.IsRecord := by
  unfold Schema.read at run
  obtain ⟨entries, mapped, run⟩ := bind_ok run
  have fields := mapping_ok document mapped
  obtain ⟨name, named, run⟩ := bind_ok run
  obtain ⟨tables, readTables, run⟩ := bind_ok run
  obtain ⟨views, readViews, run⟩ := bind_ok run
  obtain ⟨enums, readEnums, run⟩ := bind_ok run
  obtain ⟨functions, readFunctions, run⟩ := bind_ok run
  obtain ⟨procedures, readProcedures, run⟩ := bind_ok run
  obtain ⟨triggers, readTriggers, run⟩ := bind_ok run
  cases run
  have held (key : Text) (value : Value) :
      Value.lookup? key entries = some value → IsDocument value := fields.lookup
  exact ⟨required_ok fields named,
    readGroup_keyed (held _) (fun _ _ => Relation.isRecord_read) readTables,
    readGroup_keyed (held _) (fun _ _ => Relation.isRecord_read) readViews,
    readGroup_keyed (held _) (fun _ _ => Enumeration.isRecord_read) readEnums,
    readGroup_keyed (held _) (fun _ _ => Routine.isRecord_read) readFunctions,
    readGroup_keyed (held _) (fun _ _ => Routine.isRecord_read) readProcedures,
    readGroup_keyed (held _) (fun _ _ => Routine.isRecord_read) readTriggers⟩

end TypedCatalog.Catalog
