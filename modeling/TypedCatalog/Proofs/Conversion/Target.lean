import TypedCatalog.Conversion
import TypedCatalog.Proofs.Fault
import TypedCatalog.Proofs.SqlType.Arrays

/-! Targets of declared types: trailing brackets are array levels, and `Gives` specifies `convert`
by one constructor per kind of target. -/
namespace TypedCatalog

open SqlType (arrayOf levels append_levels_succ jsonType)

namespace Target

variable {name : Text}

/-- The target under `depth` array levels. -/
def arrays : Nat → Target → Target
  | 0, item => item
  | depth + 1, item => array (arrays depth item)

theorem ofName_arrayOf (item : Text) : ofName (arrayOf item) = array (ofName item) := by
  rw [ofName, arrayOf, List.reverse_append]
  rfl

theorem ofName_scalar (other : ∀ item, name ≠ arrayOf item) : ofName name = scalar name := by
  rw [ofName]
  unfold ofReversed
  split
  · rename_i rest shape
    refine absurd ?_ (other rest.reverse)
    rw [← List.reverse_reverse name, shape]
    simp [arrayOf]
  · rw [List.reverse_reverse]

theorem ofName_levels (name : Text) (depth : Nat) :
    ofName (name ++ levels depth) = arrays depth (ofName name) := by
  induction depth with
  | zero => rw [show levels 0 = [] from rfl, List.append_nil, arrays]
  | succ depth ih => rw [append_levels_succ, ofName_arrayOf, ih, arrays]

/-- The target below all array levels is JSON. -/
def isJson : Target → Bool
  | json => true
  | array item => isJson item
  | _ => false

theorem isJson_arrays (depth : Nat) (item : Target) : (arrays depth item).isJson = item.isJson := by
  induction depth with
  | zero => rfl
  | succ depth ih => exact ih

theorem eq_json_of_scalar (json : (scalar name).isJson = true) : name = jsonType := by
  unfold scalar at json
  split at json
  · cases json
  · split at json
    · cases json
    · split at json
      · cases json
      · split at json
        · assumption
        · cases json

theorem isJson_ofName_iff :
    (ofName name).isJson = true ↔ ∃ depth, name = jsonType ++ levels depth := by
  constructor
  · intro json
    induction length : name.length using Nat.strong_induction_on generalizing name with
    | h size ih =>
      by_cases brackets : ∃ item, name = arrayOf item
      · obtain ⟨item, rfl⟩ := brackets
        rw [ofName_arrayOf] at json
        have shorter : item.length < size := by
          have two : (arrayOf item).length = item.length + 2 := List.length_append
          omega
        obtain ⟨depth, shape⟩ := ih item.length shorter json rfl
        exact ⟨depth + 1, by rw [append_levels_succ, ← shape]⟩
      · rw [ofName_scalar fun item same => brackets ⟨item, same⟩] at json
        exact ⟨0, by rw [eq_json_of_scalar json]; rfl⟩
  · rintro ⟨depth, rfl⟩
    rw [ofName_levels, isJson_arrays]
    decide

end Target

namespace Conversion

variable {value : Value}

/-- `toNumber` yields an integer or a double. -/
theorem toNumber_cases {result : Value} (run : toNumber value = .ok result) :
    (∃ n, result = .int n) ∨ ∃ x, result = .float x := by
  unfold toNumber at run
  split at run
  · exact .inl ⟨_, (Except.ok.inj run).symm⟩
  · exact .inl ⟨_, (Except.ok.inj run).symm⟩
  · exact .inr ⟨_, (Except.ok.inj run).symm⟩
  · obtain ⟨text, -, rfl⟩ := map_ok run
    unfold numberIn
    dsimp only
    split
    · exact .inl ⟨_, rfl⟩
    · exact .inr ⟨_, rfl⟩

theorem convert_null (target : Target) : convert target .null = .ok .null := by
  cases target <;> rfl

theorem convert_number (given : value ≠ .null) : convert .number value = toNumber value :=
  convert.eq_2 value given

theorem convert_boolean (given : value ≠ .null) :
    convert .boolean value = .ok (.bool (toBoolean value)) := convert.eq_3 value given

theorem convert_string (given : value ≠ .null) :
    convert .string value = value.text.map .str :=
  convert.eq_4 value given

theorem convert_json_str (text : Text) : convert .json (.str text) = decoded (.dict []) text := rfl

theorem convert_json (given : value ≠ .null) (other : ∀ text, value ≠ .str text) :
    convert .json value = .ok value := convert.eq_7 value given other

theorem convert_other (given : value ≠ .null) : convert .other value = .ok value :=
  convert.eq_8 value given

theorem convertTo_str (name : Text) (value : Value) :
    convertTo (.str name) value = convert (.ofName name) value := by
  cases value with
  | null => exact (convert_null _).symm
  | _ => rfl

theorem convert_array (item : Target) (given : value ≠ .null) :
    convert (.array item) value =
      itemsOf value >>= fun items => (items.mapM (convert item)).map .list := by
  rw [convert.eq_6 _ _ given]
  cases itemsOf value <;> rfl

/-- Specification of `convert` on success, by target. -/
inductive Gives : Target → Value → Value → Prop where
  | null (target : Target) : Gives target .null .null
  | number {value result : Value} : value ≠ .null → toNumber value = .ok result →
      Gives .number value result
  | boolean {value : Value} : value ≠ .null → Gives .boolean value (.bool (toBoolean value))
  | string {value : Value} {text : Text} : value ≠ .null → value.text = .ok text →
      Gives .string value (.str text)
  | decoded {text : Text} {result : Value} : decoded (.dict []) text = .ok result →
      Gives .json (.str text) result
  | kept {value : Value} : value ≠ .null → (∀ text, value ≠ .str text) → Gives .json value value
  | other {value : Value} : value ≠ .null → Gives .other value value
  | list {item : Target} {value : Value} {items results : List Value} : value ≠ .null →
      itemsOf value = .ok items → items.mapM (convert item) = .ok results →
      Gives (.array item) value (.list results)

theorem gives_of_convert {target : Target} {result : Value}
    (run : convert target value = .ok result) : Gives target value result := by
  by_cases null : value = .null
  · subst null
    rw [convert_null] at run
    cases run
    exact .null target
  · cases target with
    | number =>
      rw [convert_number null] at run
      exact .number null run
    | boolean =>
      rw [convert_boolean null] at run
      cases run
      exact .boolean null
    | string =>
      rw [convert_string null] at run
      obtain ⟨text, written, rfl⟩ := map_ok run
      exact .string null written
    | json =>
      by_cases text : ∃ text, value = .str text
      · obtain ⟨text, rfl⟩ := text
        exact .decoded run
      · have other : ∀ text, value ≠ .str text := fun inner same => text ⟨inner, same⟩
        rw [convert_json null other] at run
        cases run
        exact .kept null other
    | array item =>
      rw [convert_array item null] at run
      obtain ⟨items, held, run⟩ := bind_ok run
      obtain ⟨results, each, rfl⟩ := map_ok run
      exact .list null held each
    | other =>
      rw [convert_other null] at run
      cases run
      exact .other null

end Conversion
end TypedCatalog
