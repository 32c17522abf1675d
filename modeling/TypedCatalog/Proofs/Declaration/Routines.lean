import TypedCatalog.Proofs.Declaration.Names

/-! `Declares` specifies the declarations of a routine by its inputs, result columns, return type,
kind and outputs, independently of `ofRoutine`: parameters, a row, and exactly one result in the
last place. -/
namespace TypedCatalog.Declaration

open Catalog

variable {base : Text} {routine : Routine} {declaration : Declaration}

/-- The result columns, with an absent list as the empty one. -/
def columnsOf (routine : Routine) : List ResultColumn := routine.returnColumns.getD []

/-- The normal form is empty or `void`. -/
def IsVoid (type : Text) : Prop := SqlType.normalize type = [] ∨ SqlType.normalize type = "void"

/-- The return type is absent or `IsVoid`. -/
def ReturnsNothing (routine : Routine) : Prop := ∀ type ∈ routine.returnType, IsVoid type

def GoesIn (parameter : Parameter) : Prop := parameter.mode = "IN" ∨ parameter.mode = "INOUT"

def ComesOut (parameter : Parameter) : Prop := parameter.mode = "OUT" ∨ parameter.mode = "INOUT"

instance : DecidablePred GoesIn := fun _ => inferInstanceAs (Decidable (_ ∨ _))

instance : DecidablePred ComesOut := fun _ => inferInstanceAs (Decidable (_ ∨ _))

theorem isInput_iff {parameter : Parameter} : parameter.isInput = true ↔ GoesIn parameter := by
  simp only [Parameter.isInput, GoesIn, Bool.or_eq_true, decide_eq_true_eq]

theorem isOutput_iff {parameter : Parameter} : parameter.isOutput = true ↔ ComesOut parameter := by
  simp only [Parameter.isOutput, ComesOut, Bool.or_eq_true, decide_eq_true_eq]

theorem inputs_eq (routine : Routine) :
    routine.inputs = routine.parameters.filter fun parameter => GoesIn parameter :=
  List.filter_congr fun parameter _ => by rw [Bool.eq_iff_iff, isInput_iff, decide_eq_true_eq]

theorem outputs_eq (routine : Routine) :
    routine.outputs = routine.parameters.filter fun parameter => ComesOut parameter :=
  List.filter_congr fun parameter _ => by rw [Bool.eq_iff_iff, isOutput_iff, decide_eq_true_eq]

theorem inputs_ne_nil :
    routine.inputs ≠ [] ↔ ∃ parameter ∈ routine.parameters, GoesIn parameter := by
  simp only [Routine.inputs, ne_eq, List.filter_eq_nil_iff, isInput_iff, not_forall, not_not,
    exists_prop]

theorem outputs_ne_nil :
    routine.outputs ≠ [] ↔ ∃ parameter ∈ routine.parameters, ComesOut parameter := by
  simp only [Routine.outputs, ne_eq, List.filter_eq_nil_iff, isOutput_iff, not_forall, not_not,
    exists_prop]

theorem returned?_eq_some {type : Text} :
    returned? routine = some type ↔ routine.returnType = some type ∧ ¬IsVoid type := by
  simp [returned?, IsVoid, Option.filter_eq_some_iff]

theorem returned?_eq_none : returned? routine = none ↔ ReturnsNothing routine := by
  simp [returned?, ReturnsNothing, IsVoid, Option.filter_eq_none_iff, or_iff_not_imp_left]

/-- Exactly this declaration if the condition holds, and none otherwise. -/
structure OnlyIf (condition : Prop) (declaration : Declaration) (declared : List Declaration) :
    Prop where
  declares : condition → declared = [declaration]
  omits : ¬condition → declared = []

/-- One property per input, in order, optional exactly if it has a default. -/
def parametersDeclared (base : Text) (routine : Routine) : Declaration :=
  interface (base ++ "Params") <|
    (routine.parameters.filter fun parameter => GoesIn parameter).map fun parameter =>
      ⟨parameter.name, SqlType.declared parameter.type, parameter.hasDefault, []⟩

def rowDeclared (base : Text) (routine : Routine) : Declaration :=
  interface (base ++ "ResultRow") <| (columnsOf routine).map fun column =>
    ⟨column.name, SqlType.declared column.type, false, []⟩

/-- One property per output, in order. -/
def outputsDeclared (base : Text) (routine : Routine) : Declaration :=
  interface (base ++ "Result") <|
    (routine.parameters.filter fun parameter => ComesOut parameter).map fun parameter =>
      ⟨parameter.name, SqlType.declared parameter.type, false, []⟩

theorem parametersDeclared_eq (base : Text) (routine : Routine) :
    parametersDeclared base routine =
      interface (base ++ "Params") (routine.inputs.map inputProperty) := by
  rw [inputs_eq]
  rfl

theorem outputsDeclared_eq (base : Text) (routine : Routine) :
    outputsDeclared base routine =
      interface (base ++ "Result") (routine.outputs.map outputProperty) := by
  rw [outputs_eq]
  rfl

/-- The result declaration in its six shapes: rows, one row, values, one value, outputs, or
`void`. -/
inductive IsResult (base : Text) (routine : Routine) : Declaration → Prop where
  | rows : columnsOf routine ≠ [] → routine.kind = "set" ∨ routine.kind = "table" →
      IsResult base routine (synonym (base ++ "Result") (base ++ "ResultRow" ++ "[]"))
  | row : columnsOf routine ≠ [] → ¬(routine.kind = "set" ∨ routine.kind = "table") →
      IsResult base routine (synonym (base ++ "Result") (base ++ "ResultRow" ++ " | null"))
  | values {type : Text} : columnsOf routine = [] → routine.returnType = some type →
      ¬IsVoid type → routine.kind = "set" →
      IsResult base routine (synonym (base ++ "Result") (SqlType.declared type ++ "[]"))
  | value {type : Text} : columnsOf routine = [] → routine.returnType = some type →
      ¬IsVoid type → routine.kind ≠ "set" →
      IsResult base routine (synonym (base ++ "Result") (SqlType.declared type ++ " | null"))
  | outputs : columnsOf routine = [] → ReturnsNothing routine →
      (∃ parameter ∈ routine.parameters, ComesOut parameter) →
      IsResult base routine (outputsDeclared base routine)
  | nothing : columnsOf routine = [] → ReturnsNothing routine →
      (¬∃ parameter ∈ routine.parameters, ComesOut parameter) →
      IsResult base routine (synonym (base ++ "Result") "void")

theorem onlyIf_parametersOf (base : Text) (routine : Routine) :
    OnlyIf (∃ parameter ∈ routine.parameters, GoesIn parameter) (parametersDeclared base routine)
      (parametersOf base routine) := by
  rw [← inputs_ne_nil]
  constructor
  · intro nonempty
    simp [parametersOf, parametersDeclared_eq, nonempty]
  · intro empty
    simp [parametersOf, not_not.mp empty]

theorem isSequence_iff (routine : Routine) :
    (routine.kind = "set" || routine.kind = "table") = true ↔
      routine.kind = "set" ∨ routine.kind = "table" := by
  rw [Bool.or_eq_true, decide_eq_true_eq, decide_eq_true_eq]

/-- With result columns the result is made of rows, for every return type. -/
theorem isResult_of_columns (nonempty : columnsOf routine ≠ []) : ∃ result,
    resultOf base routine = [rowDeclared base routine, result] ∧ IsResult base routine result := by
  obtain ⟨column, others, shape⟩ := List.exists_cons_of_ne_nil nonempty
  have columns : routine.returnColumns.getD [] = column :: others := shape
  have row : rowDeclared base routine =
      interface (base ++ "ResultRow") ((column :: others).map resultProperty) := by
    rw [rowDeclared, shape]
    rfl
  unfold resultOf
  rw [columns, row]
  refine ⟨_, rfl, ?_⟩
  by_cases many : routine.kind = "set" ∨ routine.kind = "table"
  · rw [if_pos ((isSequence_iff routine).mpr many)]
    exact .rows nonempty many
  · rw [if_neg ((isSequence_iff routine).not.mpr many)]
    exact .row nonempty many

/-- Without result columns, a return type that is not `IsVoid` determines the result. -/
theorem isResult_of_type {type : Text} (empty : columnsOf routine = [])
    (returned : returned? routine = some type) : ∃ result,
    resultOf base routine = [result] ∧ IsResult base routine result := by
  have columns : routine.returnColumns.getD [] = [] := empty
  obtain ⟨given, filled⟩ := returned?_eq_some.mp returned
  unfold resultOf
  rw [columns, returned]
  refine ⟨_, rfl, ?_⟩
  by_cases many : routine.kind = "set"
  · rw [if_pos many]
    exact .values empty given filled many
  · rw [if_neg many]
    exact .value empty given filled many

/-- Without result columns and return type, the outputs determine the result, or it is `void`. -/
theorem isResult_of_outputs (empty : columnsOf routine = []) (returned : returned? routine = none) :
    ∃ result, resultOf base routine = [result] ∧ IsResult base routine result := by
  have columns : routine.returnColumns.getD [] = [] := empty
  have nothing := returned?_eq_none.mp returned
  unfold resultOf
  rw [columns, returned]
  cases outputs : routine.outputs with
  | nil =>
    have silent := outputs_ne_nil.not.mp (not_not.mpr outputs)
    exact ⟨_, rfl, .nothing empty nothing silent⟩
  | cons parameter others =>
    have nonempty : routine.outputs ≠ [] := outputs ▸ List.cons_ne_nil parameter others
    rw [← outputs]
    refine ⟨_, ?_, .outputs empty nothing (outputs_ne_nil.mp nonempty)⟩
    rw [outputsDeclared_eq]
    exact if_neg (by rwa [List.isEmpty_iff])

theorem isResult_resultOf (base : Text) (routine : Routine) : ∃ row result,
    resultOf base routine = row ++ [result] ∧ IsResult base routine result ∧
      OnlyIf (columnsOf routine ≠ []) (rowDeclared base routine) row := by
  by_cases empty : columnsOf routine = []
  · have omitted : OnlyIf (columnsOf routine ≠ []) (rowDeclared base routine) [] :=
      ⟨fun nonempty => absurd empty nonempty, fun _ => rfl⟩
    cases returned : returned? routine with
    | some type =>
      obtain ⟨result, shape, isResult⟩ := isResult_of_type empty returned
      exact ⟨[], result, shape, isResult, omitted⟩
    | none =>
      obtain ⟨result, shape, isResult⟩ := isResult_of_outputs empty returned
      exact ⟨[], result, shape, isResult, omitted⟩
  · obtain ⟨result, shape, isResult⟩ := isResult_of_columns empty
    exact ⟨[_], result, shape, isResult, fun _ => rfl, fun other => absurd empty other⟩

/-- The declarations of a routine under a base name: optional parameters, optional row, and one
result. -/
inductive Declares (base : Text) (routine : Routine) : List Declaration → Prop where
  | parts {parameters row : List Declaration} {result : Declaration} :
      OnlyIf (∃ parameter ∈ routine.parameters, GoesIn parameter) (parametersDeclared base routine)
        parameters →
      OnlyIf (columnsOf routine ≠ []) (rowDeclared base routine) row →
      IsResult base routine result →
      Declares base routine (parameters ++ (row ++ [result]))

theorem declares_ofRoutine (suffix : Text) (routine : Routine) :
    Declares (Name.pascal routine.name ++ suffix) routine (ofRoutine suffix routine) := by
  obtain ⟨row, result, shape, isResult, rows⟩ :=
    isResult_resultOf (Name.pascal routine.name ++ suffix) routine
  have whole : ofRoutine suffix routine =
      parametersOf (Name.pascal routine.name ++ suffix) routine ++ (row ++ [result]) := by
    rw [← shape]
    rfl
  rw [whole]
  exact .parts (onlyIf_parametersOf _ routine) rows isResult

theorem OnlyIf.eq_of_mem {condition : Prop} {declared : List Declaration} {other : Declaration}
    (only : OnlyIf condition declaration declared) (member : other ∈ declared) :
    other = declaration := by
  by_cases given : condition
  · rw [only.declares given] at member
    exact List.mem_singleton.mp member
  · rw [only.omits given] at member
    cases member

namespace IsResult

theorem name_eq (isResult : IsResult base routine declaration) :
    declaration.name = base ++ "Result" := by
  cases isResult with
  | rows | row | values | value | outputs | nothing => rfl

theorem interface_iff (isResult : IsResult base routine declaration) :
    (∃ properties, declaration = interface (base ++ "Result") properties) ↔
      columnsOf routine = [] ∧ ReturnsNothing routine ∧
        ∃ parameter ∈ routine.parameters, ComesOut parameter := by
  cases isResult with
  | rows nonempty | row nonempty => simp [nonempty]
  | values _ given filled | value _ given filled =>
    simp only [reduceCtorEq, exists_false, false_iff]
    rintro ⟨-, nothing, -⟩
    exact filled (nothing _ given)
  | outputs empty nothing several => exact iff_of_true ⟨_, rfl⟩ ⟨empty, nothing, several⟩
  | nothing _ _ silent =>
    simp only [reduceCtorEq, exists_false, false_iff]
    rintro ⟨-, -, several⟩
    exact silent several

/-- Array and nullable types differ from `void`. -/
theorem not_void (type : Text) : type ++ "[]" ≠ "void" ∧ type ++ " | null" ≠ "void" := by
  constructor
  · intro same
    have last := congrArg List.getLast? same
    simp [List.getLast?_append] at last
  · intro same
    have last := congrArg List.getLast? same
    simp [List.getLast?_append] at last

theorem void_iff (isResult : IsResult base routine declaration) :
    declaration = synonym (base ++ "Result") "void" ↔
      columnsOf routine = [] ∧ ReturnsNothing routine ∧
        ¬∃ parameter ∈ routine.parameters, ComesOut parameter := by
  cases isResult with
  | rows nonempty | row nonempty =>
    simp only [synonym.injEq, true_and, not_void, nonempty, false_and]
  | values _ given filled | value _ given filled =>
    simp only [synonym.injEq, true_and, not_void, false_iff]
    rintro ⟨-, nothing, -⟩
    exact filled (nothing _ given)
  | outputs _ _ several =>
    simp only [outputsDeclared, reduceCtorEq, false_iff]
    rintro ⟨-, -, silent⟩
    exact silent several
  | nothing empty nothing silent => exact iff_of_true rfl ⟨empty, nothing, silent⟩

end IsResult

/-- Among the declarations of a routine only the last has the name of the result. -/
theorem Declares.result {declared : List Declaration} (declares : Declares base routine declared) :
    ∃ result, IsResult base routine result ∧ result ∈ declared ∧
      (∀ other ∈ declared, other.name = base ++ "Result" → other = result) ∧
      (declared.map Declaration.name).count (base ++ "Result") = 1 := by
  obtain ⟨takes, rows, isResult⟩ := declares
  rename_i parameters row result
  have parametersApart : base ++ "Params".toList ≠ base ++ "Result".toList := by simp
  have rowApart : base ++ "ResultRow".toList ≠ base ++ "Result".toList := by simp
  have others : ∀ other ∈ parameters ++ row, other.name ≠ base ++ "Result" := by
    intro other member
    rcases List.mem_append.mp member with member | member
    · rw [takes.eq_of_mem member]
      exact parametersApart
    · rw [rows.eq_of_mem member]
      exact rowApart
  have absent : base ++ "Result".toList ∉ (parameters ++ row).map Declaration.name := by
    intro member
    obtain ⟨other, member, same⟩ := List.mem_map.mp member
    exact others other member same
  refine ⟨result, isResult, by simp, ?_, ?_⟩
  · intro other member named
    rw [← List.append_assoc, List.mem_append, List.mem_singleton] at member
    exact member.resolve_left fun inside => others other inside named
  · rw [← List.append_assoc, List.map_append, List.count_append, List.count_eq_zero_of_not_mem absent,
      List.map_singleton, isResult.name_eq, List.count_singleton_self]

/-- The routine without the parameters that are neither inputs nor outputs. -/
def withoutIdle (routine : Routine) : Routine :=
  { routine with parameters := routine.parameters.filter fun p => p.isInput || p.isOutput }

theorem inputs_withoutIdle (routine : Routine) : (withoutIdle routine).inputs = routine.inputs := by
  simp only [withoutIdle, Routine.inputs, List.filter_filter]
  refine List.filter_congr fun parameter _ => ?_
  cases parameter.isInput <;> simp

theorem outputs_withoutIdle (routine : Routine) :
    (withoutIdle routine).outputs = routine.outputs := by
  simp only [withoutIdle, Routine.outputs, List.filter_filter]
  refine List.filter_congr fun parameter _ => ?_
  cases parameter.isOutput <;> simp

theorem ofRoutine_withoutIdle (suffix : Text) (routine : Routine) :
    ofRoutine suffix (withoutIdle routine) = ofRoutine suffix routine := by
  unfold ofRoutine parametersOf resultOf
  rw [inputs_withoutIdle, outputs_withoutIdle]
  rfl

theorem readModule_ofRoutine {suffix : Text} (inside : suffix.all Text.isAlnum = true)
    (routine : Routine) :
    readModule (joined ((ofRoutine suffix routine).map text)) =
      some (ofRoutine suffix routine) := by
  have ended : Lists [] [] := .done rfl
  have lists := ended.joined_append (isReadable_ofRoutine inside routine)
  rw [List.append_nil, List.append_nil] at lists
  rw [lists.readModule_eq, bare_ofRoutine]

/-- `ofRoutine` satisfies `Declares`, with exactly one declaration named `Result`. The result is an
interface or `void` exactly under the stated conditions, parameters that `withoutIdle` drops have no
effect, and `readModule` recovers the declarations from their text. -/
theorem routine_declared (suffix : Text) (routine : Routine) :
    let base := Name.pascal routine.name ++ suffix
    let declared := ofRoutine suffix routine
    Declares base routine declared ∧
      (declared.map Declaration.name).count (base ++ "Result") = 1 ∧
      ((∃ properties, interface (base ++ "Result") properties ∈ declared) ↔
        columnsOf routine = [] ∧ ReturnsNothing routine ∧
          ∃ parameter ∈ routine.parameters, ComesOut parameter) ∧
      (synonym (base ++ "Result") "void" ∈ declared ↔
        columnsOf routine = [] ∧ ReturnsNothing routine ∧
          ¬∃ parameter ∈ routine.parameters, ComesOut parameter) ∧
      ofRoutine suffix (withoutIdle routine) = declared ∧
      (suffix.all Text.isAlnum = true →
        readModule (joined (declared.map text)) = some declared) := by
  intro base declared
  have declares : Declares base routine declared := declares_ofRoutine suffix routine
  obtain ⟨result, isResult, last, only, once⟩ := declares.result
  refine ⟨declares, once, ?_, ?_, ofRoutine_withoutIdle suffix routine,
    fun inside => readModule_ofRoutine inside routine⟩
  · rw [← isResult.interface_iff]
    constructor
    · rintro ⟨properties, member⟩
      exact ⟨properties, (only _ member rfl).symm⟩
    · rintro ⟨properties, rfl⟩
      exact ⟨properties, last⟩
  · rw [← isResult.void_iff]
    constructor
    · intro member
      exact (only _ member rfl).symm
    · rintro rfl
      exact last

/-- A routine with a parameter of both directions and one of neither. -/
def bumping : Routine where
  name := "bump"
  schema := "s"
  parameters := [{ name := "counter", type := "int4", mode := "INOUT" },
    { name := "extra", type := "int4[]", mode := "VARIADIC" }]

theorem routine_declared_bumping : procedureSuffix.all Text.isAlnum = true ∧
    readModule (joined ((ofRoutine procedureSuffix bumping).map text)) =
      some [interface "BumpProcedureParams" [⟨"counter", "number", false, []⟩],
        interface "BumpProcedureResult" [⟨"counter", "number", false, []⟩]] := by
  obtain ⟨-, -, -, -, -, read⟩ := routine_declared procedureSuffix bumping
  exact ⟨rfl, (read rfl).trans rfl⟩

end TypedCatalog.Declaration
