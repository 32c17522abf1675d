import TypedCatalog.Proofs.Conversion.Target

/-! Result types of `convertTo` for the three base types under array levels. -/
namespace TypedCatalog.Conversion

open SqlType (levels numberType booleanType stringType)
open Target (arrays)

/-- Values of the shape of a target, with null allowed for items. -/
inductive HasShape : Target → Value → Prop where
  | int (n : Int) : HasShape .number (.int n)
  | float (x : Binary64) : HasShape .number (.float x)
  | bool (b : Bool) : HasShape .boolean (.bool b)
  | str (text : Text) : HasShape .string (.str text)
  | list {item : Target} {items : List Value} :
      (∀ value ∈ items, value ≠ .null → HasShape item value) → HasShape (.array item) (.list items)

variable {target : Target} {value result : Value}

theorem HasShape.ne_null (shape : HasShape target value) : value ≠ .null := by
  rintro rfl
  cases shape

theorem hasShape_toNumber (run : toNumber value = .ok result) : HasShape .number result := by
  obtain ⟨n, rfl⟩ | ⟨x, rfl⟩ := toNumber_cases run
  · exact .int n
  · exact .float x

/-- A target whose values have a shape. -/
def IsBase (target : Target) : Prop := target = .number ∨ target = .boolean ∨ target = .string

theorem hasShape_base (base : IsBase target) (given : value ≠ .null)
    (run : convert target value = .ok result) : HasShape target result := by
  rcases base with rfl | rfl | rfl
  · cases gives_of_convert run with
    | null => contradiction
    | number _ run => exact hasShape_toNumber run
  · cases gives_of_convert run with
    | null => contradiction
    | boolean _ => exact .bool _
  · cases gives_of_convert run with
    | null => contradiction
    | string _ _ => exact .str _

theorem hasShape_convert (base : IsBase target) (depth : Nat) (given : value ≠ .null)
    (run : convert (arrays depth target) value = .ok result) :
    HasShape (arrays depth target) result := by
  induction depth generalizing value result with
  | zero => exact hasShape_base base given run
  | succ depth ih =>
    rw [arrays] at run ⊢
    cases gives_of_convert run with
    | null => contradiction
    | list _ held each =>
      refine .list fun converted member visible => ?_
      obtain ⟨item, -, run⟩ := mapM_ok each converted member
      refine ih (fun null => visible ?_) run
      rw [null, convert_null] at run
      exact (Except.ok.inj run).symm

theorem isBase_scalar {name : Text} (known : name ∈ [numberType, booleanType, stringType]) :
    IsBase (.ofName name) := by
  simp only [List.mem_cons, List.not_mem_nil, or_false] at known
  rcases known with rfl | rfl | rfl
  · exact .inl (by decide)
  · exact .inr (.inl (by decide))
  · exact .inr (.inr (by decide))

/-- A successful conversion to a base type under `depth` array levels is null if and only if the
value is, and otherwise `HasShape`. -/
theorem convertTo_hasShape {name : Text} (known : name ∈ [numberType, booleanType, stringType])
    (depth : Nat) (run : convertTo (.str (name ++ levels depth)) value = .ok result) :
    (result = .null ↔ value = .null) ∧
      (value ≠ .null → HasShape (arrays depth (.ofName name)) result) := by
  rw [convertTo_str, Target.ofName_levels] at run
  have shaped (given : value ≠ .null) := hasShape_convert (isBase_scalar known) depth given run
  refine ⟨⟨fun null => ?_, fun null => ?_⟩, shaped⟩
  · by_contra given
    exact (shaped given).ne_null null
  · rw [null, convert_null] at run
    exact (Except.ok.inj run).symm

/-- Items as JSON text, as a literal, as null, and of a kind without items. -/
def mixedRows : Value :=
  .list [.ofText "[true, null]", .ofText "\x7b 7,-8\x7d", .null,
    .list [.bool false, .ofText "2"], .int 3]

def mixedNumbers : Value :=
  .list [.list [.int 1, .null], .list [.int 7, .int (-8)], .null, .list [.int 0, .int 2], .list []]

theorem convertTo_hasShape_mixed :
    numberType ∈ [numberType, booleanType, stringType] ∧
      convertTo (.str (numberType ++ levels 2)) mixedRows = .ok mixedNumbers ∧
      (mixedNumbers = .null ↔ mixedRows = .null) ∧ mixedRows ≠ .null ∧
      HasShape (.array (.array .number)) mixedNumbers := by
  have known : numberType ∈ [numberType, booleanType, stringType] := List.mem_cons_self
  have run : convertTo (.str (numberType ++ levels 2)) mixedRows = .ok mixedNumbers := by cbv
  have given : mixedRows ≠ .null := Value.noConfusion
  obtain ⟨null, shaped⟩ := convertTo_hasShape known 2 run
  exact ⟨known, run, null, given, shaped given⟩

end TypedCatalog.Conversion
