import TypedCatalog.Proofs.Catalog.Looks
import TypedCatalog.Proofs.Catalog.Flaws

/-! Null fields. `Look.telling` lists the keys under which a look distinguishes null from absence:
texts written as given, flags with the default true, and names that the fault of a missing name
quotes. -/
namespace TypedCatalog.Catalog

open Value (Entries lookup?)

/-- The new mapping is the old one with null under a key that was absent. -/
inductive SetsNull (key : Text) : Entries → Entries → Prop where
  | intro (before after : Entries) : lookup? key (before ++ after) = none →
      SetsNull key (before ++ after) (before ++ (.str key, .null) :: after)

variable {key : Text} {old new : Entries} {form : Form} {look : Look}

/-- The keys under which a look distinguishes null from absence. -/
def Look.telling : Look → List Text
  | .required _ => ["name"]
  | .text key | .truth key => [key]
  | _ => []

/-- The keys under which a form distinguishes null from absence. -/
def Form.telling : Form → List Text
  | schema | parameter | resultColumn => ["name"]
  | column => ["name", "nullable"]
  | table | view | enumeration | routine => ["name", "schema"]
  | reference => ["schema", "table", "column"]
  | health => ["status", "timestamp", "version"]
  | cacheStatus => []

theorem Form.mem_telling (member : look ∈ form.looks) (told : key ∈ look.telling) :
    key ∈ form.telling := by
  have all : ∀ look ∈ form.looks, ∀ key ∈ look.telling, key ∈ form.telling := by
    cases form <;> decide +kernel
  exact all look member key told

/-- All keys of a form. -/
def Form.fields (form : Form) : List Text := form.looks.flatMap Look.names

namespace SetsNull

theorem lookup_eq (nulls : SetsNull key old new) (name : Text) :
    lookup? name new = if name = key then some .null else lookup? name old := by
  cases nulls with
  | intro before after absent =>
    by_cases same : name = key
    · subst same
      rw [Value.lookup?_append, Option.or_eq_none_iff] at absent
      rw [Value.lookup?_self, absent.1, Option.none_or, if_pos rfl]
    · rw [Value.lookup?_other same, if_neg same]

theorem absent (nulls : SetsNull key old new) : lookup? key old = none := by
  cases nulls with
  | intro before after absent => exact absent

theorem held (nulls : SetsNull key old new) : lookup? key new = some .null := by
  rw [nulls.lookup_eq, if_pos rfl]

theorem lookup_other (nulls : SetsNull key old new) {name : Text} (other : name ≠ key) :
    lookup? name new = lookup? name old := by
  rw [nulls.lookup_eq, if_neg other]

/-- A function with equal results for null and absence is invariant under `SetsNull`. -/
theorem result_eq {α : Type} (result : Option Value → α) (same : result none = result (some .null))
    (nulls : SetsNull key old new) (name : Text) :
    result (lookup? name old) = result (lookup? name new) := by
  rw [nulls.lookup_eq]
  split
  · rename_i here
    subst here
    rw [nulls.absent, same]
  · rfl

theorem fieldOf_eq (nulls : SetsNull key old new) (spellings : List Text) :
    fieldOf old spellings = fieldOf new spellings := by
  induction spellings with
  | nil => rfl
  | cons name names ih =>
    rw [fieldOf_cons, fieldOf_cons, ih,
      nulls.result_eq (fun held => held.filter fun value => !value.isNull) rfl name]

theorem required_eq (nulls : SetsNull key old new) (named : "name" ≠ key) (kind name : Text) :
    required kind old name = required kind new name := by
  unfold required
  rw [nulls.lookup_other named, nulls.result_eq (·.getD .null) rfl name]

/-- `SetsNull` preserves agreement on a look outside `telling`. -/
theorem agrees (nulls : SetsNull key old new) (untold : key ∉ look.telling) :
    look.Agrees old new := by
  cases look with
  | required name =>
    exact fun kind => nulls.required_eq (fun same => untold (List.mem_singleton.mpr same.symm)) _ _
  | text name =>
    refine Look.agrees_of_lookups fun other inside => ?_
    exact (nulls.lookup_other fun same => untold (same ▸ inside)).symm
  | truth name =>
    refine Look.agrees_of_lookups fun other inside => ?_
    exact (nulls.lookup_other fun same => untold (same ▸ inside)).symm
  | present name => exact nulls.result_eq (·.filter Value.isTruthy) rfl name
  | spelled spellings => exact nulls.fieldOf_eq spellings
  | reference name => exact nulls.result_eq readReference rfl name
  | list name form => exact nulls.result_eq (readAll form.read) rfl name
  | group name form => exact fun nameOf => nulls.result_eq (readGroup form.read nameOf) rfl name
  | spelledList spellings form => exact congrArg (Option.map _) (nulls.fieldOf_eq spellings)

end SetsNull

/-- `read` is invariant under `SetsNull` outside `telling`. -/
theorem Form.read_null (nulls : SetsNull key old new) (untold : key ∉ form.telling) :
    form.read (.dict old) = form.read (.dict new) :=
  form.read_congr fun _ member => nulls.agrees fun told => untold (form.mem_telling member told)

/-- `textOf` succeeds on null if and only if it does on absence. -/
theorem SetsNull.textOf_fault (nulls : SetsNull key old new) (name : Text) :
    (textOf old name).map (fun _ => ()) = (textOf new name).map fun _ => () :=
  nulls.result_eq (fun held => ((held.getD (.str [])).text).map fun _ => ()) rfl name

/-- `textOf` distinguishes null from absence. -/
theorem SetsNull.textOf_apart (nulls : SetsNull key old new) {shown : Text}
    (before : textOf old key = .ok shown) (after : textOf new key = .ok shown) : False := by
  rw [textOf, nulls.absent] at before
  rw [textOf, nulls.held] at after
  cases before
  cases after

theorem Relation.schema_of_read {kind : Text} {relation : Relation} {entries : Entries}
    (done : Relation.read kind (.dict entries) = .ok relation) :
    textOf entries "schema" = .ok relation.schema := by
  obtain ⟨held, mapped, done⟩ := bind_ok done
  obtain rfl := Except.ok.inj mapped
  obtain ⟨name, -, done⟩ := bind_ok done
  obtain ⟨schema, shown, done⟩ := bind_ok done
  obtain ⟨columns, -, done⟩ := bind_ok done
  cases done
  exact shown

theorem Enumeration.schema_of_read {enumeration : Enumeration} {entries : Entries}
    (done : Enumeration.read (.dict entries) = .ok enumeration) :
    textOf entries "schema" = .ok enumeration.schema := by
  obtain ⟨held, mapped, done⟩ := bind_ok done
  obtain rfl := Except.ok.inj mapped
  obtain ⟨name, -, done⟩ := bind_ok done
  obtain ⟨schema, shown, done⟩ := bind_ok done
  obtain ⟨values, -, done⟩ := bind_ok done
  cases done
  exact shown

theorem Routine.schema_of_read {routine : Routine} {entries : Entries}
    (done : Routine.read (.dict entries) = .ok routine) :
    textOf entries "schema" = .ok routine.schema := by
  rw [Routine.read_dict] at done
  obtain ⟨name, -, done⟩ := bind_ok done
  obtain ⟨schema, shown, done⟩ := bind_ok done
  obtain ⟨kind, -, done⟩ := bind_ok done
  obtain ⟨objectKind, -, done⟩ := bind_ok done
  obtain ⟨parameters, -, done⟩ := bind_ok done
  obtain ⟨returnType, -, done⟩ := bind_ok done
  obtain ⟨columns, -, done⟩ := bind_ok done
  cases done
  exact shown

theorem Reference.texts_of_read {reference : Reference} {entries : Entries}
    (done : Reference.read (.dict entries) = .ok reference) :
    textOf entries "schema" = .ok reference.schema ∧
      textOf entries "table" = .ok reference.table ∧
      textOf entries "column" = .ok reference.column := by
  obtain ⟨held, mapped, done⟩ := bind_ok done
  obtain rfl := Except.ok.inj mapped
  obtain ⟨schema, shown, done⟩ := bind_ok done
  obtain ⟨table, shownToo, done⟩ := bind_ok done
  obtain ⟨column, shownLast, done⟩ := bind_ok done
  cases done
  exact ⟨shown, shownToo, shownLast⟩

theorem Column.nullable_of_read {column : Column} {entries : Entries}
    (done : Column.read (.dict entries) = .ok column) :
    column.nullable = ((lookup? "nullable" entries).getD (.bool true)).isTruthy := by
  obtain ⟨held, mapped, done⟩ := bind_ok done
  obtain rfl := Except.ok.inj mapped
  obtain ⟨name, -, done⟩ := bind_ok done
  obtain ⟨type, -, done⟩ := bind_ok done
  obtain ⟨references, -, done⟩ := bind_ok done
  cases done
  rfl

theorem Health.texts_of_read {health : Health} {entries : Entries}
    (done : Health.read (.dict entries) = .ok health) :
    textOf entries "status" = .ok health.status ∧
      textOf entries "timestamp" = .ok health.timestamp ∧
      textOf entries "version" = .ok health.version := by
  rw [Health.read_dict] at done
  obtain ⟨status, shown, done⟩ := bind_ok done
  obtain ⟨timestamp, shownToo, done⟩ := bind_ok done
  obtain ⟨version, shownLast, done⟩ := bind_ok done
  obtain ⟨uptime, -, done⟩ := bind_ok done
  cases done
  exact ⟨shown, shownToo, shownLast⟩

/-- Under `telling`, except for a name, `SetsNull` changes the record. -/
theorem Form.read_told {record : form.Record} (nulls : SetsNull key old new)
    (told : key ∈ form.telling) (other : key ≠ "name") (done : form.read (.dict old) = .ok record) :
    form.read (.dict new) ≠ .ok record := by
  intro again
  have only {name : Text} (told : key ∈ (["name".toList, name] : List Text)) : key = name :=
    List.mem_singleton.mp ((List.mem_cons.mp told).resolve_left other)
  cases form with
  | schema => exact other (List.mem_singleton.mp told)
  | parameter => exact other (List.mem_singleton.mp told)
  | resultColumn => exact other (List.mem_singleton.mp told)
  | cacheStatus => cases told
  | table =>
    obtain rfl := only told
    exact nulls.textOf_apart (Relation.schema_of_read done) (Relation.schema_of_read again)
  | view =>
    obtain rfl := only told
    exact nulls.textOf_apart (Relation.schema_of_read done) (Relation.schema_of_read again)
  | enumeration =>
    obtain rfl := only told
    exact nulls.textOf_apart (Enumeration.schema_of_read done) (Enumeration.schema_of_read again)
  | routine =>
    obtain rfl := only told
    exact nulls.textOf_apart (Routine.schema_of_read done) (Routine.schema_of_read again)
  | column =>
    obtain rfl := only told
    have same := (Column.nullable_of_read done).symm.trans (Column.nullable_of_read again)
    rw [nulls.absent, nulls.held] at same
    cases same
  | reference =>
    obtain ⟨schema, table, column⟩ := Reference.texts_of_read done
    obtain ⟨schemaToo, tableToo, columnToo⟩ := Reference.texts_of_read again
    have parts : key = "schema" ∨ key = "table" ∨ key = "column" := by simpa [telling] using told
    rcases parts with rfl | rfl | rfl
    · exact nulls.textOf_apart schema schemaToo
    · exact nulls.textOf_apart table tableToo
    · exact nulls.textOf_apart column columnToo
  | health =>
    obtain ⟨status, timestamp, version⟩ := Health.texts_of_read done
    obtain ⟨statusToo, timestampToo, versionToo⟩ := Health.texts_of_read again
    have texts : key = "status" ∨ key = "timestamp" ∨ key = "version" := by
      simpa [telling] using told
    rcases texts with rfl | rfl | rfl
    · exact nulls.textOf_apart status statusToo
    · exact nulls.textOf_apart timestamp timestampToo
    · exact nulls.textOf_apart version versionToo

/-- The fault of a missing name quotes the value in its place. -/
theorem Form.read_nameless (named : "name".toList ∈ form.telling) : ∃ kind, ∀ entries,
    (lookup? "name" entries).getD .null = .null → form.read (.dict entries) = .error (.record
      ⟨kind, .missing "name", ((lookup? "name" entries).getD (.str "name")).shown⟩) := by
  have refused (kind : Text) {entries : Entries} {α : Type} {next : Text → Except Fault α}
      (nameless : (lookup? "name" entries).getD .null = .null) :
      (required kind entries "name" >>= next) = .error (.record
        ⟨kind, .missing "name", ((lookup? "name" entries).getD (.str "name")).shown⟩) := by
    rw [required, nameless]
    cases found : lookup? "name" entries with
    | none => rfl
    | some value =>
      rw [found, Option.getD_some] at nameless
      rw [nameless]
      rfl
  cases form with
  | schema => exact ⟨"schema", fun _ nameless => refused _ nameless⟩
  | table => exact ⟨"table", fun _ nameless => refused _ nameless⟩
  | view => exact ⟨"view", fun _ nameless => refused _ nameless⟩
  | enumeration => exact ⟨"enum", fun _ nameless => refused _ nameless⟩
  | column => exact ⟨"column", fun _ nameless => refused _ nameless⟩
  | resultColumn => exact ⟨"return column", fun _ nameless => refused _ nameless⟩
  | routine =>
    refine ⟨"function", fun entries nameless => ?_⟩
    rw [read, Routine.read_dict]
    exact refused _ nameless
  | parameter =>
    refine ⟨"parameter", fun entries nameless => ?_⟩
    simp only [read, Parameter.read, pick_dict, mapping, ok_bind]
    exact refused _ nameless
  | reference => simp [telling] at named
  | health => simp [telling] at named
  | cacheStatus => cases named

/-- The look stores its text or flag without a check. -/
def Look.isShown : Look → Bool
  | .text _ | .truth _ => true
  | _ => false

theorem Look.untold (look : Look) (other : key ≠ "name") (hidden : look.isShown = false) :
    key ∉ look.telling := by
  intro told
  cases look with
  | required name => exact other (List.mem_singleton.mp told)
  | text name => cases hidden
  | truth name => cases hidden
  | _ => cases told

/-- A discarded text matters by its fault only. -/
theorem textOf_bind_congr {α : Type} {next : Except Fault α}
    (same : (textOf old key).map (fun _ => ()) = (textOf new key).map fun _ => ()) :
    (textOf old key >>= fun _ => next) = (textOf new key >>= fun _ => next) := by
  have ignored (text : Except Fault Text) :
      (text >>= fun _ => next) = (text.map (fun _ => ()) >>= fun _ => next) := by
    cases text <;> rfl
  rw [ignored, ignored (textOf new key), same]

/-- Success, and otherwise the fault, depends on the looks that are not `isShown`, and on the faults
of the texts. -/
theorem Form.outcome_congr (agree : ∀ look ∈ form.looks, look.isShown = false →
    look.Agrees old new) (texts : ∀ name, (textOf old name).map (fun _ => ()) =
      (textOf new name).map fun _ => ()) : (fun _ => ()) <$> form.read (.dict old) =
      (fun _ => ()) <$> form.read (.dict new) := by
  have all (hidden : ∀ look ∈ form.looks, look.isShown = false) :
      (fun _ => ()) <$> form.read (.dict old) = (fun _ => ()) <$> form.read (.dict new) :=
    congrArg _ (form.read_congr fun look member => agree look member (hidden look member))
  cases form with
  | schema => exact all (by decide)
  | parameter => exact all (by decide)
  | resultColumn => exact all (by decide)
  | cacheStatus => exact all (by decide)
  | reference =>
    simp only [read, Reference.read, Value.entries, ok_bind, map_bind, map_pure,
      textOf_bind_congr (texts _)]
  | table =>
    simp only [looks, List.forall_mem_cons, Look.isShown, Look.Agrees, read, forall_const] at agree
    simp only [read, readTable, Relation.read, mapping, ok_bind, map_bind, map_pure, agree,
      textOf_bind_congr (texts _)]
  | view =>
    simp only [looks, List.forall_mem_cons, Look.isShown, Look.Agrees, read, forall_const] at agree
    simp only [read, readView, Relation.read, mapping, ok_bind, map_bind, map_pure, agree,
      textOf_bind_congr (texts _)]
  | enumeration =>
    simp only [looks, List.forall_mem_cons, Look.isShown, Look.Agrees, forall_const] at agree
    simp only [read, Enumeration.read, mapping, ok_bind, map_bind, map_pure, readAll_present, agree,
      textOf_bind_congr (texts _)]
  | routine =>
    simp only [looks, List.forall_mem_cons, Look.isShown, Look.Agrees, read, forall_const] at agree
    simp only [read, Routine.read_dict, loweredField, map_bind, map_pure, agree,
      textOf_bind_congr (texts _)]
  | column =>
    simp only [looks, List.forall_mem_cons, Look.isShown, Look.Agrees, forall_const] at agree
    simp only [read, Column.read, mapping, ok_bind, map_bind, map_pure, agree]
  | health =>
    simp only [looks, List.forall_mem_cons, Look.isShown, Look.Agrees, forall_const] at agree
    simp only [read, Health.read_dict, map_bind, map_pure, agree, textOf_bind_congr (texts _)]

/-- `SetsNull` changes the outcome: at a missing name always, at another key under `telling` if the
old mapping reads. -/
def Form.Told (form : Form) (key : Text) (old : Entries) : Prop :=
  key ∈ form.telling ∧ (key = "name" ∨ ∃ record, form.read (.dict old) = .ok record)

/-- `read` is invariant under `SetsNull` if and only if the key is not `Told`. -/
theorem Form.read_null_iff (nulls : SetsNull key old new) :
    form.read (.dict old) = form.read (.dict new) ↔ ¬form.Told key old := by
  constructor
  · rintro same ⟨told, certain⟩
    by_cases named : key = "name"
    · subst named
      obtain ⟨kind, refused⟩ := form.read_nameless told
      have before := refused old (by rw [nulls.absent]; rfl)
      have after := refused new (by rw [nulls.held]; rfl)
      rw [before, after, nulls.absent, nulls.held] at same
      cases same
    · obtain ⟨record, done⟩ := certain.resolve_left named
      exact form.read_told nulls told named done (same.symm.trans done)
  · intro untold
    by_cases told : key ∈ form.telling
    -- Reading fails over another field, and shows neither the null nor its absence.
    · obtain ⟨other, unreadable⟩ := not_or.mp fun certain => untold ⟨told, certain⟩
      have outcome := form.outcome_congr
        (fun look _ hidden => nulls.agrees (look.untold other hidden)) nulls.textOf_fault
      cases done : form.read (.dict old) with
      | ok record => exact absurd ⟨record, done⟩ unreadable
      | error fault =>
        rw [done] at outcome
        exact (map_error outcome.symm).symm
    · exact form.read_null nulls told

/-- Setting an absent field to null leaves `read` unchanged if and only if the key is not `Told`,
and the equality lifts to every document around the record by `Revises`. `Told` are a column's
`nullable`, the texts stored as given (the schema of an object, the parts of a reference, the states
of health), and a missing name, whose fault quotes it. -/
theorem read_null_told (form : Form) (field : key ∈ form.fields) (nulls : SetsNull key old new) :
    (form.read (.dict old) = form.read (.dict new) ↔ ¬form.Told key old) ∧
    (¬form.Told key old → ∀ (whole : Form) (document revised : Value),
      Revises (fun inner first second => inner = form ∧ first = old ∧ second = new) whole
        document revised → whole.read document = whole.read revised) := by
  have law := form.read_null_iff nulls
  refine ⟨law, fun untold whole document revised revises => revises.read_eq ?_ ?_⟩
  · rintro _ _ _ ⟨rfl, rfl, rfl⟩
    exact law.mpr untold
  -- Every field of a reference tells, and a reference of nothing can be read.
  · rintro first second ⟨rfl, same, sameToo⟩
    have filled : old ≠ [] := by
      rintro rfl
      exact untold ⟨field, .inr ⟨_, rfl⟩⟩
    have filledToo : new ≠ [] := by
      rintro rfl
      cases nulls.held
    rw [same, sameToo, List.isEmpty_eq_false_iff.mpr filled, List.isEmpty_eq_false_iff.mpr filledToo]

/-- The `nullable` flags of all columns of the tables. -/
def nullables (schema : Schema) : List Bool :=
  schema.tables.records.flatMap (·.columns.map (·.nullable))

/-- A column without a `nullable` field. -/
def plainColumn : Entries := [(.ofText "name", .ofText "c"), (.ofText "type", .ofText "text")]

theorem read_null_told_column :
    let flagged := plainColumn ++ [(.ofText "isEnum", .null)]
    let denied := plainColumn ++ [(.ofText "nullable", .null)]
    "isEnum".toList ∈ Form.column.fields ∧ SetsNull "isEnum" plainColumn flagged ∧
      Form.schema.read (schemaAround plainColumn) = Form.schema.read (schemaAround flagged) ∧
      "nullable".toList ∈ Form.column.fields ∧ SetsNull "nullable" plainColumn denied ∧
      Form.column.read (.dict plainColumn) ≠ Form.column.read (.dict denied) := by
  intro flagged denied
  have field : "isEnum".toList ∈ Form.column.fields := by decide
  have nulls : SetsNull "isEnum" plainColumn flagged := .intro plainColumn [] rfl
  have untold : ¬Form.column.Told "isEnum" plainColumn :=
    fun told => absurd told.1 (by decide)
  have fieldToo : "nullable".toList ∈ Form.column.fields := by decide
  have nullsToo : SetsNull "nullable" plainColumn denied := .intro plainColumn [] rfl
  have told : Form.column.Told "nullable" plainColumn := ⟨by decide, .inr ⟨_, rfl⟩⟩
  refine ⟨field, nulls, ?_, fieldToo, nullsToo, fun same => ?_⟩
  · exact (read_null_told .column field nulls).2 untold .schema _ _
      (revises_schemaAround ⟨rfl, rfl, rfl⟩)
  · exact (read_null_told .column fieldToo nullsToo).1.mp same told

/-- A null `nullable` reads as false, an absent one as true. -/
theorem nullable_null : ¬∀ old new : Value, Schema.isShaped old = true →
    Revises (fun form old new => ∃ key ∈ form.fields, SetsNull key old new) .schema old new →
      Schema.read old = Schema.read new := by
  intro law
  have nulls : SetsNull "nullable" plainColumn (plainColumn ++ [(.ofText "nullable", .null)]) :=
    .intro plainColumn [] rfl
  have field : "nullable".toList ∈ Form.column.fields := by decide
  have same := law (schemaAround plainColumn) _ (by decide +kernel)
    (revises_schemaAround ⟨"nullable", field, nulls⟩)
  have absent : (Schema.read (schemaAround plainColumn)).toOption.map nullables = some [true] := by
    decide +kernel
  rw [same] at absent
  exact absurd absent (by decide +kernel)

end TypedCatalog.Catalog
