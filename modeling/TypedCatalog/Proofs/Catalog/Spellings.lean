import Mathlib.Data.List.Nodup
import Mathlib.Logic.Relation
import TypedCatalog.Proofs.Catalog.Looks

/-! Invariance of readers under alternative spellings and under permutations of keys, at any depth.
-/
namespace TypedCatalog

open Value (Entries lookup?)

/-- The keys of a mapping that are texts. -/
def Value.textKeys (entries : Entries) : List Text :=
  entries.filterMap fun entry =>
    match entry.1 with
    | .str key => some key
    | _ => none

namespace Value

variable {first second entries : Entries} {key : Text} {value : Value}

/-- With unique text keys, `lookup?` is membership. -/
theorem lookup?_eq_some_iff (distinct : (textKeys entries).Nodup) :
    lookup? key entries = some value ↔ (.str key, value) ∈ entries := by
  induction entries with
  | nil => simp [lookup?]
  | cons entry entries ih =>
    obtain ⟨name, held⟩ := entry
    cases name with
    | str name =>
      obtain ⟨new, distinct⟩ := List.nodup_cons.mp distinct
      rw [lookup?, List.mem_cons, Prod.mk.injEq, Value.str.injEq]
      by_cases same : name = key
      · subst same
        have absent : (.str name, value) ∉ entries := fun inside =>
          new (List.mem_filterMap.mpr ⟨_, inside, rfl⟩)
        simp [absent, eq_comm]
      · simp [same, Ne.symm same, ih distinct]
    | _ => simpa [lookup?] using ih distinct

theorem lookup?_perm (distinct : (textKeys first).Nodup) (same : first.Perm second) (key : Text) :
    lookup? key first = lookup? key second := by
  have distinctToo : (textKeys second).Nodup := (same.filterMap _).nodup distinct
  ext value
  rw [lookup?_eq_some_iff distinct, lookup?_eq_some_iff distinctToo, same.mem_iff]

end Value

namespace Catalog

/-- The alternative spellings of a look. -/
def Look.spellings : Look → List Text
  | .spelled spellings | .spelledList spellings _ => spellings
  | _ => []

/-- One field under another of its spellings, where no further spelling is present, or a permutation
of entries with unique text keys. -/
inductive Respells (form : Form) : Entries → Entries → Prop where
  | rename {look : Look} {key other : Text} (value : Value) (before after : Entries) :
      look ∈ form.looks → key ∈ look.spellings → other ∈ look.spellings →
      (∀ name ∈ look.spellings, lookup? name (before ++ after) = none) →
      Respells form (before ++ (.str key, value) :: after) (before ++ (.str other, value) :: after)
  | permute {first second : Entries} :
      (Value.textKeys first).Nodup → first.Perm second → Respells form first second

variable {key : Text} {value : Value} {before after : Entries} {spellings : List Text}

/-- `fieldOf` finds the value under the only spelling that is present. -/
theorem fieldOf_only (absent : ∀ name ∈ spellings, lookup? name (before ++ after) = none) :
    fieldOf (before ++ (.str key, value) :: after) spellings =
      if key ∈ spellings then (some value).filter fun held => !held.isNull else none := by
  induction spellings with
  | nil => rfl
  | cons name names ih =>
    obtain ⟨missing, others⟩ := List.forall_mem_cons.mp absent
    rw [fieldOf_cons, ih others]
    by_cases same : name = key
    · subst same
      rw [Value.lookup?_append, Option.or_eq_none_iff] at missing
      rw [Value.lookup?_self, missing.1, Option.none_or, if_pos List.mem_cons_self]
      cases (some value).filter fun held => !held.isNull with
      | none => rw [Option.none_or, ite_self]
      | some held => rw [Option.some_or]
    · simp only [Value.lookup?_other same, missing, Option.filter_none, Option.none_or,
        List.mem_cons, Ne.symm same, false_or]

theorem Look.mem_names {look : Look} (inside : key ∈ look.spellings) :
    look.isRequired = false ∧ key ∈ look.names := by
  cases look with
  | spelled spellings => exact ⟨rfl, inside⟩
  | spelledList spellings form => exact ⟨rfl, inside⟩
  | _ => cases inside

/-- Mappings that differ by the spelling of one field agree on its look. -/
theorem Look.agrees_of_spellings {look : Look} {other : Text} (inside : key ∈ look.spellings)
    (insideToo : other ∈ look.spellings)
    (absent : ∀ name ∈ look.spellings, lookup? name (before ++ after) = none) :
    look.Agrees (before ++ (.str key, value) :: after) (before ++ (.str other, value) :: after) := by
  have alike : fieldOf (before ++ (.str key, value) :: after) look.spellings =
      fieldOf (before ++ (.str other, value) :: after) look.spellings := by
    rw [fieldOf_only absent, fieldOf_only absent, if_pos inside, if_pos insideToo]
  cases look with
  | spelled spellings => exact alike
  | spelledList spellings form => exact congrArg (Option.map _) alike
  | _ => cases inside

/-- `Respells` preserves agreement on all looks of the form. -/
theorem Respells.agrees {form : Form} {first second : Entries}
    (respells : Respells form first second) {look : Look} (member : look ∈ form.looks) :
    look.Agrees first second := by
  cases respells with
  | @rename found key other value before after there inside insideToo absent =>
    by_cases this : found = look
    · subst this
      exact Look.agrees_of_spellings inside insideToo absent
    · have elsewhere {name key : Text} (held : name ∈ look.names)
          (inside : key ∈ found.spellings) : name ≠ key := by
        rintro rfl
        obtain ⟨optional, named⟩ := Look.mem_names inside
        exact form.apart there member this optional named held
      refine Look.agrees_of_lookups fun name held => ?_
      rw [Value.lookup?_other (elsewhere held inside), Value.lookup?_other (elsewhere held insideToo)]
  | permute distinct same =>
    exact Look.agrees_of_lookups fun name _ => Value.lookup?_perm distinct same name

theorem Respells.isEmpty_eq {form : Form} {first second : Entries}
    (respells : Respells form first second) : first.isEmpty = second.isEmpty := by
  cases respells with
  | rename value before after => cases before <;> rfl
  | permute _ same => exact same.isEmpty_eq

/-- `read` is invariant under any number of `Respells` at any depth of the document. -/
theorem Form.read_respelled (form : Form) {first second : Value}
    (respelled : Relation.ReflTransGen (Revises Respells form) first second) :
    form.read first = form.read second := by
  induction respelled with
  | refl => rfl
  | tail _ revises ih =>
    refine ih.trans (revises.read_eq (fun form old new respells => ?_) fun _ _ => ?_)
    · exact form.read_congr fun look member => respells.agrees member
    · exact Respells.isEmpty_eq

/-- The entries of a key column. -/
def namedAndTyped : Entries := [(.ofText "name", .ofText "id"), (.ofText "type", .ofText "uuid")]

theorem read_respelled_flag :
    let flagged (spelling : Text) := namedAndTyped ++ [(.str spelling, .bool true)]
    let first := schemaAround (flagged "is_pk")
    let second := schemaAround (flagged "isPrimaryKey").reverse
    Relation.ReflTransGen (Revises Respells .schema) first second ∧
      Form.schema.read first = Form.schema.read second ∧
      (Form.schema.read first).toOption.map (fun schema =>
        schema.tables.records.flatMap (·.columns.map (·.isPrimaryKey))) = some [true] := by
  intro flagged first second
  have found : Look.spelled ["is_primary_key", "isPrimaryKey", "is_pk"] ∈ Form.column.looks := by
    decide
  have absent : ∀ name ∈ (["is_primary_key", "isPrimaryKey", "is_pk"] : List Text),
      lookup? name (namedAndTyped ++ []) = none := by
    simp [lookup?, namedAndTyped, Value.ofText]
  have rename : Respells .column (flagged "is_pk") (flagged "isPrimaryKey") :=
    .rename (.bool true) namedAndTyped [] found (by decide) (by decide) absent
  have permute : Respells .column (flagged "isPrimaryKey") (flagged "isPrimaryKey").reverse :=
    .permute (by decide) (List.reverse_perm _).symm
  have respelled : Relation.ReflTransGen (Revises Respells .schema) first second :=
    .tail (.single (revises_schemaAround rename)) (revises_schemaAround permute)
  exact ⟨respelled, Form.read_respelled .schema respelled, by decide +kernel⟩

end Catalog
end TypedCatalog
