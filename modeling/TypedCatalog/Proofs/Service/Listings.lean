import Mathlib.Data.List.Induction
import TypedCatalog.Proofs.Catalog.Looks
import TypedCatalog.Proofs.Service.Sessions

/-! The object registers of a schema, compared with the listings that a service returns for the same
payload. -/
namespace TypedCatalog

open Catalog
open Value (Entries lookup?)

namespace Catalog.Register

variable {α : Type} {name : α → Text}

theorem get?_put (register : Register α) (key other : Text) (record : α) :
    (register.put key record).get? other =
      if key = other then some record else register.get? other := by
  induction register with
  | nil => by_cases same : key = other <;> simp [put, get?, same]
  | cons entry rest ih =>
    unfold put
    by_cases here : entry.1 = key
    · by_cases same : key = other <;> simp [get?, here, same]
    · rw [if_neg here]
      by_cases found : entry.1 = other
      · have apart : key ≠ other := fun same => here (found.trans same.symm)
        simp [get?, apart, found]
      · simpa [get?, found] using ih

theorem ofRecords_concat (name : α → Text) (records : List α) (record : α) :
    ofRecords name (records ++ [record]) =
      (ofRecords name records).put (name record) record := by
  rw [ofRecords, List.foldl_concat, ofRecords]

/-- The keys of `ofRecords` are the names at their first occurrence. -/
theorem keys_ofRecords (name : α → Text) (records : List α) :
    (ofRecords name records).map Prod.fst = (records.map name).eraseDups := by
  induction records using List.reverseRecOn with
  | nil => rfl
  | append_singleton records record ih =>
    rw [ofRecords_concat, keys_put, ih, List.map_append, List.map_singleton,
      List.eraseDups_append, List.removeAll]
    generalize records.map name = names
    by_cases held : name record ∈ names
    · rw [if_pos (List.mem_eraseDups.mpr held), List.filter_cons_of_neg (by simpa using held)]
      exact (List.append_nil _).symm
    · rw [if_neg (mt List.mem_eraseDups.mp held), List.filter_cons_of_pos (by simpa using held)]
      rfl

/-- `ofRecords` holds the last record of each name. -/
theorem get?_ofRecords (name : α → Text) (records : List α) (key : Text) :
    (ofRecords name records).get? key =
      records.reverse.find? fun record => name record == key := by
  induction records using List.reverseRecOn with
  | nil => rfl
  | append_singleton records record ih =>
    rw [ofRecords_concat, get?_put, ih, List.reverse_concat, List.find?_cons]
    by_cases same : name record = key
    · simp [same]
    · rw [if_neg same, beq_eq_false_iff_ne.mpr same]

/-- `ofRecords` is the identity on records with pairwise different names. -/
theorem records_ofRecords {records : List α} (distinct : (records.map name).Nodup) :
    (ofRecords name records).records = records := by
  let register : Register α := records.map fun record => (name record, record)
  have back : register.records = records := by
    rw [Register.records, List.map_map]
    exact List.map_id records
  have keyed : register.IsKeyed name fun _ => True := by
    refine ⟨?_, ?_, fun _ _ => trivial⟩
    · intro entry member
      obtain ⟨record, -, rfl⟩ := List.mem_map.mp member
      rfl
    · rw [List.map_map]
      exact distinct
  have same := keyed.ofRecords
  rw [back] at same
  rw [same, back]

end Catalog.Register

namespace Catalog

/-- A kind of objects: its key in the document, the form of its records, and its register in the
schema. -/
structure Group where
  key : Text
  form : Form
  name : form.Record → Text
  register : Schema → Register form.Record

def groups : List Group :=
  [⟨"tables", .table, Relation.name, Schema.tables⟩,
    ⟨"views", .view, Relation.name, Schema.views⟩,
    ⟨"enums", .enumeration, Enumeration.name, Schema.enums⟩,
    ⟨"functions", .routine, Routine.name, Schema.functions⟩,
    ⟨"procedures", .routine, Routine.name, Schema.procedures⟩,
    ⟨"triggers", .routine, Routine.name, Schema.triggers⟩]

variable {entries : Entries} {schema : Schema} {group : Group}

theorem Group.mem_looks (member : group ∈ groups) :
    Look.group group.key group.form ∈ Form.schema.looks := by
  have all : ∀ group ∈ groups, Look.group group.key group.form ∈ Form.schema.looks := by
    decide
  exact all group member

theorem Schema.read_register (read : Schema.read (.dict entries) = .ok schema)
    (member : group ∈ groups) :
    readGroup group.form.read group.name (lookup? group.key entries) =
      .ok (group.register schema) := by
  unfold Schema.read at read
  obtain ⟨held, mapped, read⟩ := bind_ok read
  cases mapped
  obtain ⟨name, -, read⟩ := bind_ok read
  obtain ⟨tables, readTables, read⟩ := bind_ok read
  obtain ⟨views, readViews, read⟩ := bind_ok read
  obtain ⟨enums, readEnums, read⟩ := bind_ok read
  obtain ⟨functions, readFunctions, read⟩ := bind_ok read
  obtain ⟨procedures, readProcedures, read⟩ := bind_ok read
  obtain ⟨triggers, readTriggers, read⟩ := bind_ok read
  cases read
  simp only [groups, List.mem_cons, List.not_mem_nil, or_false] at member
  rcases member with rfl | rfl | rfl | rfl | rfl | rfl
  · exact readTables
  · exact readViews
  · exact readEnums
  · exact readFunctions
  · exact readProcedures
  · exact readTriggers

/-- The list form and the mapping form of a group read to the same schema, for every choice of
keys. -/
theorem Schema.read_list_dict (member : group ∈ groups) (before after pairs : Entries) :
    Schema.read (.dict (before ++ (.str group.key, .list (pairs.map Prod.snd)) :: after)) =
      Schema.read (.dict (before ++ (.str group.key, .dict pairs) :: after)) := by
  have grouped := Group.mem_looks member
  refine Form.schema.read_congr fun look inside => ?_
  by_cases this : Look.group group.key group.form = look
  · subst this
    intro name
    refine Value.lookup?_replace (readGroup group.form.read name) ?_ group.key before after
    rw [readGroup_list, readGroup_dict]
  · refine Look.agrees_of_lookups fun name held => ?_
    have apart : name ≠ group.key := by
      rintro rfl
      exact Form.schema.apart grouped inside this rfl List.mem_cons_self held
    rw [Value.lookup?_other apart, Value.lookup?_other apart]

end Catalog

namespace Directory

/-- `readGroup` is `Register.ofRecords` of the records. -/
theorem readGroup_eq {α : Type} (read : Value → Except Fault α) (name : α → Text)
    (held : Option Value) : readGroup read name held =
      (records read (held.getD .null)).map (Register.ofRecords name) := by
  cases held with
  | none => rfl
  | some data =>
    rw [readGroup, records, Option.getD_some]
    cases data.isTruthy with
    | false => rfl
    | true =>
      cases membersOf data with
      | error fault => rfl
      | ok members =>
        rw [if_pos rfl, if_pos rfl, ok_bind, ok_bind]
        cases members.mapM read <;> rfl

theorem fst_ofKind {client : Client} {service : Service} {schema kind : Text} {payload : Value}
    {α : Type} (read : Value → Except Fault α)
    (answered : (client.get ("/dt/" ++ schema ++ '/' :: kind) [] service).1 = .ok payload) :
    (ofKind client schema kind read service).1 = records read payload := by
  unfold ofKind list
  rw [fst_bind_lift, answered, ok_bind]

/-- The register of each group holds the last record of every name, in order of first occurrence,
under a key that is its name. It is the same for the list and the mapping form of the payload. With
pairwise different names it equals what `ofKind` returns for that payload. -/
theorem register_of_read {entries : Entries} {schema : Schema} {group : Group}
    (read : Schema.read (.dict entries) = .ok schema) (member : group ∈ groups) :
    let payload := (lookup? group.key entries).getD .null
    let register := group.register schema
    (∃ found, records group.form.read payload = .ok found ∧
      register.map Prod.fst = (found.map group.name).eraseDups ∧
      (∀ key, register.get? key =
        found.reverse.find? fun record => group.name record == key) ∧
      ((found.map group.name).Nodup → register.records = found ∧
        ∀ client service name,
          (client.get ("/dt/" ++ name ++ '/' :: group.key) [] service).1 = .ok payload →
          (ofKind client name group.key group.form.read service).1 = .ok register.records)) ∧
    (register.map Prod.fst).Nodup ∧
    (∀ entry ∈ register, entry.1 = group.name entry.2) ∧
    ∀ before after pairs : Entries,
      Schema.read (.dict (before ++ (.str group.key, .list (pairs.map Prod.snd)) :: after)) =
        Schema.read (.dict (before ++ (.str group.key, .dict pairs) :: after)) := by
  intro payload register
  obtain ⟨found, listed, made⟩ : ∃ found, records group.form.read payload = .ok found ∧
      Register.ofRecords group.name found = register := by
    have grouped := Schema.read_register read member
    rw [readGroup_eq] at grouped
    exact map_ok grouped
  have keyed : register.IsKeyed group.name fun _ => True := by
    rw [← made]
    exact Register.isKeyed_ofRecords fun _ _ => trivial
  refine ⟨⟨found, listed, ?_, ?_, ?_⟩, keyed.distinct, keyed.names,
    Schema.read_list_dict member⟩
  · rw [← made]
    exact Register.keys_ofRecords group.name found
  · intro key
    rw [← made]
    exact Register.get?_ofRecords group.name found key
  · intro distinct
    have same : register.records = found := by
      rw [← made]
      exact Register.records_ofRecords distinct
    refine ⟨same, fun client service name answered => ?_⟩
    rw [fst_ofKind group.form.read answered, listed, same]

def tableData : Value :=
  .list [.ofFields [("name", .ofText "t")], .ofFields [("name", .ofText "u")]]

theorem isDocument_tableData : Json.IsDocument tableData := by
  have named (text : String) : Json.IsDocument (.ofFields [("name", .ofText text)]) :=
    .dict (List.nodup_singleton _) (List.forall_mem_singleton.mpr (.str _))
  exact .list (List.forall_mem_cons.mpr ⟨named _, List.forall_mem_singleton.mpr (named _)⟩)

/-- Two tables, and two functions of one name. -/
def overloaded : Entries :=
  [(.ofText "name", .ofText "s"), (.ofText "tables", tableData),
    (.ofText "functions", .ofFields [("first", .ofFields [("name", .ofText "f")]),
      ("second", .ofFields [("name", .ofText "g")]),
      ("third", .ofFields [("name", .ofText "f"), ("kind", .ofText "table")])])]

theorem register_of_read_overloaded :
    let service : Service := { replies := [.response { body := Json.write tableData }] }
    ∃ schema, Schema.read (.dict overloaded) = .ok schema ∧
      schema.functions.map Prod.fst = ["f".toList, "g".toList] ∧
      (schema.functions.get? "f").map (·.kind) = some "table".toList ∧
      schema.tables.records.map (·.name) = ["t".toList, "u".toList] ∧
      (ofKind (.ofUrl "http://h/") "s" "tables" readTable service).1 =
        .ok schema.tables.records := by
  intro service
  let tables : Group := ⟨"tables", .table, Relation.name, Schema.tables⟩
  let functions : Group := ⟨"functions", .routine, Routine.name, Schema.functions⟩
  have isGroup : tables ∈ groups ∧ functions ∈ groups := by simp [groups, tables, functions]
  obtain ⟨schema, read, -⟩ : ∃ schema, Schema.read (.dict overloaded) = .ok schema ∧
      schema.name = "s".toList := ok_of_shown (by decide +kernel)
  refine ⟨schema, read, ?_⟩
  obtain ⟨⟨declared, listed, keys, last, -⟩, -⟩ := register_of_read read isGroup.2
  obtain ⟨⟨found, listedTables, -, -, same⟩, -⟩ := register_of_read read isGroup.1
  obtain ⟨routines, readRoutines, shown⟩ : ∃ routines : List Routine,
      records Routine.read ((lookup? "functions" overloaded).getD .null) = .ok routines ∧
        (routines.map Routine.name,
          (routines.reverse.find? fun routine => routine.name == "f".toList).map (·.kind)) =
          (["f".toList, "g".toList, "f".toList], some "table".toList) :=
    ok_of_shown (by decide +kernel)
  obtain ⟨relations, readRelations, names⟩ : ∃ relations : List Relation,
      records readTable tableData = .ok relations ∧
        relations.map Relation.name = ["t".toList, "u".toList] := ok_of_shown (by decide +kernel)
  cases readRoutines.symm.trans listed
  cases readRelations.symm.trans listedTables
  obtain ⟨declaredNames, kinds⟩ := Prod.mk.inj shown
  obtain ⟨kept, answers⟩ := same (names ▸ by decide)
  have reached : (Client.ofUrl "http://h/").urlFor "/dt/s/tables" [] =
      .ok "http://h/dt/s/tables".toList := rfl
  have answered : ((Client.ofUrl "http://h/").get "/dt/s/tables" [] service).1 = .ok tableData := by
    rw [Client.fst_get reached]
    exact Client.resultIn_answer rfl (Json.read_write isDocument_tableData)
  refine ⟨?_, ?_, ?_, answers _ service "s" answered⟩
  · exact keys.trans (declaredNames ▸ by decide)
  · exact (congrArg _ (last "f")).trans kinds
  · exact (congrArg _ kept).trans names

end Directory
end TypedCatalog
