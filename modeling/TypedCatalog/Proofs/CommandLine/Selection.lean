import TypedCatalog.Catalog.Record
import TypedCatalog.CommandLine.Arguments
import TypedCatalog.Proofs.Fault

/-! The selection by `--schema`: `Arguments.Wants` states it on the arguments, `select_eq_filter`
identifies it with `Schema.select`. -/
namespace TypedCatalog.CommandLine

open Catalog

def schemaSwitch : Switch := ⟨"--schema", .text⟩

namespace Arguments

variable {arguments : Arguments} {schema : Schema} {schemas : List Schema}

theorem mem_all {name value : Text} :
    value ∈ arguments.all name ↔ (name, value) ∈ arguments.settings := by
  simp [all]

/-- The name of the schema is a value of `--schema`, or the switch is not given. -/
def Wants (arguments : Arguments) (schema : Schema) : Prop :=
  (schemaSwitch.name, schema.name) ∈ arguments.settings ∨
    ∀ value, (schemaSwitch.name, value) ∉ arguments.settings

theorem wants_iff : arguments.Wants schema ↔
    schema.name ∈ arguments.all schemaSwitch.name ∨ arguments.all schemaSwitch.name = [] := by
  rw [Wants, mem_all, List.eq_nil_iff_forall_not_mem]
  simp only [mem_all]

instance (arguments : Arguments) : DecidablePred arguments.Wants :=
  fun _ => decidable_of_iff _ wants_iff.symm

/-- `Schema.select` is the filter by `Wants`, hence preserves order and members. -/
theorem select_eq_filter (arguments : Arguments) (schemas : List Schema) :
    Schema.select (arguments.all schemaSwitch.name) schemas =
      schemas.filter fun schema => arguments.Wants schema := by
  unfold Schema.select
  split
  · rename_i nothing
    have empty := List.isEmpty_iff.mp nothing
    refine (List.filter_eq_self.mpr fun schema _ => ?_).symm
    exact decide_eq_true (wants_iff.mpr (.inr empty))
  · rename_i several
    have nonempty : arguments.all schemaSwitch.name ≠ [] :=
      fun empty => several (List.isEmpty_iff.mpr empty)
    apply List.filter_congr
    intro schema _
    have wanted := @wants_iff arguments schema
    rw [or_iff_left nonempty] at wanted
    simp only [wanted, List.contains_eq_mem]

end Arguments

namespace Interface

variable {interface : Interface} {names : List Text}

/-- The items of `--schema` before each of several names. -/
def schemaItems (names : List Text) : List Item :=
  names.flatMap fun name => [.switch schemaSwitch none, .operand name]

theorem item_plain {text : Text} (plain : text.head? ≠ some '-') :
    interface.item text = .ok (.operand text) := by
  unfold item
  dsimp only
  split
  · exact absurd rfl plain
  · rfl

/-- `Interface.item` on the whole name of a switch. -/
theorem item_switch {switch : Switch} {second : Char} {rest : Text}
    (found : interface.find? ('-' :: second :: rest) = some switch) :
    interface.item ('-' :: second :: rest) = .ok (.switch switch none) := by
  unfold item
  rw [found]
  rfl

theorem item_schema (known : interface.find? schemaSwitch.name = some schemaSwitch) :
    interface.item schemaSwitch.name = .ok (.switch schemaSwitch none) :=
  @item_switch interface schemaSwitch '-' "schema".toList known

theorem items_schemas (known : interface.find? schemaSwitch.name = some schemaSwitch)
    (plain : ∀ name ∈ names, name.head? ≠ some '-') :
    interface.items (names.flatMap fun name => [schemaSwitch.name, name]) =
      .ok (schemaItems names) := by
  induction names with
  | nil => rfl
  | cons name names ih =>
    obtain ⟨first, plain⟩ := List.forall_mem_cons.mp plain
    have separator : name ≠ ['-', '-'] := by
      rintro rfl
      exact first rfl
    have other : schemaSwitch.name ≠ ['-', '-'] := by decide
    simp only [List.flatMap_cons, List.cons_append, List.nil_append, items, if_neg other,
      if_neg separator, item_schema known, item_plain first, ih plain]
    rfl

theorem take_schemas (fuel : Nat) (progress : Progress) (enough : names.length ≤ fuel) :
    interface.take fuel (schemaItems names) progress = .ok { progress with
      settings := progress.settings ++ names.map fun name => (schemaSwitch.name, name) } := by
  induction names generalizing fuel progress with
  | nil =>
    have same : { progress with settings := progress.settings ++ [] } = progress := by simp
    cases fuel with
    | zero => exact congrArg Except.ok same.symm
    | succ fuel => exact congrArg Except.ok same.symm
  | cons name names ih =>
    cases fuel with
    | zero => cases enough
    | succ fuel =>
      have next := ih fuel { progress with
        settings := progress.settings ++ [(schemaSwitch.name, name)] } (Nat.le_of_succ_le_succ enough)
      rw [List.append_assoc] at next
      exact next

/-- Arguments that repeat `--schema` parse to the names in their order. -/
theorem parse_schemas (known : interface.find? schemaSwitch.name = some schemaSwitch)
    (plain : ∀ name ∈ names, name.head? ≠ some '-') :
    interface.parse (names.flatMap fun name => [schemaSwitch.name, name]) =
      .ok { settings := names.map fun name => (schemaSwitch.name, name) } := by
  have enough : names.length ≤ (schemaItems names).length := by
    simp [schemaItems]
    omega
  unfold parse
  rw [items_schemas known plain]
  change (interface.take _ _ _ >>= _) = _
  rw [take_schemas _ _ enough]
  rfl

end Interface

end TypedCatalog.CommandLine
