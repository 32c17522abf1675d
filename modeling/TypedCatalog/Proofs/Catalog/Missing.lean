import TypedCatalog.Proofs.Catalog.Flaws

/-! Exact success condition of `Schema.read` on documents of the right shape (`Schema.isShaped`):
`IsComplete` and `IsWritable`. Otherwise it fails with the head of `Schema.flaws`. -/
namespace TypedCatalog.Catalog

variable {data : Value} {kind key : Text}

/-- Both lists begin with the same fault. -/
def BeginsAs (faults : List Fault) (flaws : List Flaw) : Prop :=
  faults.head? = (flaws.map Flaw.fault).head?

theorem BeginsAs.reports {α : Type} {result : Except Fault α} {faults : List Fault}
    {flaws : List Flaw} (begins : BeginsAs faults flaws) (reports : Reports result faults) :
    Reports result (flaws.map Flaw.fault) := by
  cases reports with
  | ok value =>
    rw [List.head?_eq_none_iff.mp begins.symm]
    exact .ok value
  | error fault later =>
    obtain ⟨more, same⟩ := List.head?_eq_some_iff.mp begins.symm
    rw [same]
    exact .error fault more

namespace BeginsAs

variable {first second : List Fault} {flaws others : List Flaw} {faultsOf : Value → List Fault}
  {flawsOf : Value → List Flaw} {shape : Value → Bool}

theorem append (left : BeginsAs first flaws) (right : BeginsAs second others) :
    BeginsAs (first ++ second) (flaws ++ others) := by
  rw [BeginsAs, List.map_append, List.head?_append, List.head?_append, left, right]

theorem mapping (dict : data.isDict = true) (rest : BeginsAs second others) :
    BeginsAs (notMapping kind data ++ second) others := by
  rw [notMapping, if_pos dict]
  exact rest

theorem search {names : List Text} (dict : data.isDict = true) (rest : BeginsAs second others) :
    BeginsAs (searchFaults names data ++ second) others := by
  rw [searchFaults, dict, Bool.true_or, if_pos rfl]
  exact rest

theorem nothing : BeginsAs [] [] := rfl

theorem text (held : Option Value) : BeginsAs (textFaults held) (textFlaws held) := by
  unfold textFaults textFlaws
  cases held with
  | none => rfl
  | some value => cases writable : value.isWritable <;> simp [writable, BeginsAs, Flaw.fault]

/-- A key that is not held has no fault of its text. -/
theorem textFaults_of_missing (missing : data.holds key = false) :
    textFaults (data.field? key) = [] ∧ textFlaws (data.field? key) = [] := by
  unfold Value.holds at missing
  split at missing
  · rename_i found
    rw [found]
    exact ⟨rfl, rfl⟩
  · rename_i found
    rw [found]
    exact ⟨rfl, rfl⟩
  · rename_i found
    rw [found]
    exact ⟨rfl, rfl⟩
  · cases missing

theorem required_of_told (told : textFaults (data.field? "name") = []) (kind key : Text) :
    BeginsAs (requiredFaults kind key data) (requiredFlaws kind key data) := by
  unfold requiredFaults requiredFlaws lacking
  cases held : data.holds key with
  | true => exact (text _).append nothing
  | false =>
    rw [(textFaults_of_missing held).2, if_neg Bool.false_ne_true, told]
    rfl

theorem name (kind : Text) (data : Value) :
    BeginsAs (requiredFaults kind "name" data) (requiredFlaws kind "name" data) := by
  cases held : data.holds "name" with
  | true =>
    simp only [requiredFaults, requiredFlaws, lacking, held, if_true]
    exact (text _).append nothing
  | false => exact required_of_told (textFaults_of_missing held).1 kind "name"

/-- The fault of a missing type quotes the name. If the name has no text, that flaw comes first. -/
theorem typed (kind : Text) (rest : BeginsAs second others) :
    BeginsAs (requiredFaults kind "name" data ++ (requiredFaults kind "type" data ++ second))
      (typedFlaws kind data ++ others) := by
  rw [typedFlaws, List.append_assoc]
  cases told : textFaults (data.field? "name") with
  | nil => exact (name kind data).append ((required_of_told told kind "type").append rest)
  | cons fault later =>
    have begins := name kind data
    have held : data.holds "name" = true := by
      by_contra missing
      rw [(textFaults_of_missing (Bool.eq_false_iff.mpr missing)).1] at told
      cases told
    rw [requiredFaults, if_pos held, told] at begins ⊢
    have first : ((requiredFlaws kind "name" data).map Flaw.fault).head? = some fault := begins.symm
    change some fault = _
    rw [List.map_append, List.head?_append, first]
    rfl

theorem typed_alone (kind : Text) (data : Value) :
    BeginsAs (requiredFaults kind "name" data ++ requiredFaults kind "type" data)
      (typedFlaws kind data) := by
  rw [← List.append_nil (requiredFaults kind "type" data), ← List.append_nil (typedFlaws kind data)]
  exact typed kind nothing

theorem flatMap {parts : List Value}
    (each : ∀ part ∈ parts, BeginsAs (faultsOf part) (flawsOf part)) :
    BeginsAs (parts.flatMap faultsOf) (parts.flatMap flawsOf) := by
  induction parts with
  | nil => rfl
  | cons part parts ih =>
    obtain ⟨first, others⟩ := List.forall_mem_cons.mp each
    rw [List.flatMap_cons, List.flatMap_cons]
    exact first.append (ih others)

theorem membersIn_empty {value : Value} (empty : value.isTruthy = false) :
    membersIn (some value) = [] := by
  cases value with
  | list items =>
    cases items with
    | nil => rfl
    | cons item items => cases empty
  | dict entries =>
    cases entries with
    | nil => rfl
    | cons entry entries => cases empty
  | _ => rfl

/-- `BeginsAs` for the members of an optional list or mapping. -/
theorem held {parts : Value → Except Fault (List Value)} {outer : Value → Bool}
    {held : Option Value} (shaped : isEmptyOr outer held = true)
    (inside : ∀ value, outer value = true → parts value = .ok (membersIn (some value)) ∧
      ∀ part ∈ membersIn (some value), BeginsAs (faultsOf part) (flawsOf part)) :
    BeginsAs (heldFaults parts faultsOf held) ((membersIn held).flatMap flawsOf) := by
  cases held with
  | none => exact nothing
  | some value =>
    unfold heldFaults
    dsimp only
    split
    · rename_i truthy
      rw [isEmptyOr, truthy, Bool.not_true, Bool.false_or] at shaped
      obtain ⟨found, each⟩ := inside value shaped
      rw [found]
      exact flatMap each
    · rename_i empty
      rw [membersIn_empty (Bool.eq_false_iff.mpr empty)]
      exact nothing

variable (each : ∀ part, shape part = true → BeginsAs (faultsOf part) (flawsOf part))
include each

theorem members_list {value : Value} (shaped : isListOf shape value = true) :
    value.items = .ok (membersIn (some value)) ∧
      ∀ part ∈ membersIn (some value), BeginsAs (faultsOf part) (flawsOf part) := by
  cases value with
  | list items => exact ⟨rfl, fun part member => each part (List.all_eq_true.mp shaped part member)⟩
  | _ => cases shaped

theorem members_group {value : Value} (shaped : isGroupOf shape value = true) :
    membersOf value = .ok (membersIn (some value)) ∧
      ∀ part ∈ membersIn (some value), BeginsAs (faultsOf part) (flawsOf part) := by
  cases value with
  | list items => exact ⟨rfl, fun part member => each part (List.all_eq_true.mp shaped part member)⟩
  | dict entries =>
    refine ⟨rfl, fun part member => ?_⟩
    obtain ⟨entry, inside, rfl⟩ := List.mem_map.mp member
    exact each entry.2 (List.all_eq_true.mp shaped entry inside)
  | _ => cases shaped

theorem list {held : Option Value} (shaped : isEmptyOr (isListOf shape) held = true) :
    BeginsAs (listFaults faultsOf held) ((membersIn held).flatMap flawsOf) :=
  BeginsAs.held shaped fun _ => members_list each

theorem group {held : Option Value} (shaped : isEmptyOr (isGroupOf shape) held = true) :
    BeginsAs (groupFaults faultsOf held) ((membersIn held).flatMap flawsOf) :=
  BeginsAs.held shaped fun _ => members_group each

end BeginsAs

/-- A falsy value holds no field. -/
theorem field?_of_empty (empty : data.isTruthy = false) (name : Text) :
    data.field? name = none := by
  cases data with
  | dict entries =>
    cases entries with
    | nil => rfl
    | cons entry entries => cases empty
  | _ => rfl

theorem begins_referenceFaults {held : Option Value} (shaped : isEmptyOr Value.isDict held = true) :
    BeginsAs (referenceFaults held) (Reference.flaws held) := by
  cases held with
  | none => exact .nothing
  | some data =>
    unfold referenceFaults Reference.flaws
    dsimp only
    split
    · rename_i truthy
      rw [isEmptyOr, truthy, Bool.not_true, Bool.false_or] at shaped
      rw [Reference.faults, if_pos shaped]
      exact (BeginsAs.text _).append ((BeginsAs.text _).append (.text _))
    · rename_i empty
      simp only [field?_of_empty (Bool.eq_false_iff.mpr empty)]
      exact .nothing

theorem Column.begins (data : Value) (shaped : Column.isShaped data = true) :
    BeginsAs (Column.faults data) (Column.flaws data) := by
  obtain ⟨dict, references⟩ := Bool.and_eq_true_iff.mp shaped
  exact .mapping dict (.typed "column" (begins_referenceFaults references))

theorem Relation.begins (kind : Text) (data : Value) (shaped : Relation.isShaped data = true) :
    BeginsAs (Relation.faults kind data) (Relation.flaws kind data) := by
  obtain ⟨dict, columns⟩ := Bool.and_eq_true_iff.mp shaped
  exact .mapping dict ((BeginsAs.name kind data).append ((BeginsAs.text _).append
    (.list Column.begins columns)))

theorem Enumeration.begins (data : Value) (shaped : Enumeration.isShaped data = true) :
    BeginsAs (Enumeration.faults data) (Enumeration.flaws data) := by
  obtain ⟨dict, values⟩ := Bool.and_eq_true_iff.mp shaped
  exact .mapping dict ((BeginsAs.name "enum" data).append ((BeginsAs.text _).append
    (.list (fun _ _ => .text _) values)))

theorem Parameter.begins (data : Value) (dict : data.isDict = true) :
    BeginsAs (Parameter.faults data) (Parameter.flaws data) :=
  .search dict (.mapping dict (.typed "parameter" ((BeginsAs.text _).append (.text _))))

theorem ResultColumn.begins (data : Value) (dict : data.isDict = true) :
    BeginsAs (ResultColumn.faults data) (typedFlaws "return column" data) :=
  .mapping dict (.typed_alone "return column" data)

theorem Routine.begins (data : Value) (shaped : Routine.isShaped data = true) :
    BeginsAs (Routine.faults data) (Routine.flaws data) := by
  obtain ⟨front, columns⟩ := Bool.and_eq_true_iff.mp shaped
  obtain ⟨dict, parameters⟩ := Bool.and_eq_true_iff.mp front
  have returned : BeginsAs (returnFaults ResultColumn.faults (spelled? returnSpellings data))
      ((returnColumnsIn data).flatMap (typedFlaws "return column")) := by
    unfold returnColumnsIn returnFaults
    cases held : spelled? returnSpellings data with
    | none => exact .nothing
    | some value =>
      rw [held, Option.all_some] at columns
      obtain ⟨found, each⟩ := BeginsAs.members_list ResultColumn.begins columns
      dsimp only
      rw [found]
      exact .flatMap each
  exact .search dict (.search dict (.mapping dict ((BeginsAs.name "function" data).append
    ((BeginsAs.text _).append ((BeginsAs.text _).append ((BeginsAs.text _).append
      ((BeginsAs.list Parameter.begins parameters).append
        ((BeginsAs.text _).append returned))))))))

theorem Schema.begins (shaped : Schema.isShaped data = true) :
    BeginsAs (Schema.faults data) (Schema.flaws data) := by
  simp only [Schema.isShaped, Bool.and_eq_true] at shaped
  obtain ⟨⟨⟨⟨⟨⟨dict, tables⟩, views⟩, enums⟩, functions⟩, procedures⟩, triggers⟩ := shaped
  exact .mapping dict ((BeginsAs.name "schema" data).append
    ((BeginsAs.group (Relation.begins "table") tables).append
      ((BeginsAs.group (Relation.begins "view") views).append
        ((BeginsAs.group Enumeration.begins enums).append
          ((BeginsAs.group Routine.begins functions).append
            ((BeginsAs.group Routine.begins procedures).append
              (BeginsAs.group Routine.begins triggers)))))))

/-- `Schema.read` of a document with `isShaped` succeeds if and only if the document `IsComplete`
and `IsWritable`; otherwise it fails with the head of `flaws`. The missing keys among the flaws are
`missing`, in order, and for a document that `IsWritable` the head of `missing` is the fault. -/
theorem Schema.read_shaped (shaped : Schema.isShaped data = true) :
    ((∃ schema, Schema.read data = .ok schema) ↔
      Schema.IsComplete data ∧ Schema.IsWritable data) ∧
    (∀ fault, Schema.read data = .error fault ↔
      ∃ first later, Schema.flaws data = first :: later ∧ fault = first.fault) ∧
    (Schema.flaws data).filterMap Flaw.missing? = Schema.missing data ∧
    (Schema.IsWritable data → ∀ fault, Schema.read data = .error fault ↔
      ∃ first later, Schema.missing data = first :: later ∧ fault = .record first) := by
  have reports := (Schema.begins shaped).reports (Schema.reports_read data)
  refine ⟨?_, fun fault => ?_, Schema.missing_flaws data, fun writable fault => ?_⟩
  · rw [reports.ok_iff, List.map_eq_nil_iff, flaws_eq_nil, Schema.missing_flaws,
      Schema.missing_eq_nil, Schema.writable_flaws]
  · rw [reports.error_iff]
    cases Schema.flaws data with
    | nil => simp
    | cons first later => simp [eq_comm]
  · rw [reports.error_iff, flaws_eq_missing (Schema.writable_flaws.mpr writable),
      Schema.missing_flaws]
    cases Schema.missing data with
    | nil => simp
    | cons first later => simp [eq_comm]

/-- The second function has a return column without a type, and the trigger has no name. -/
def flawed : Value :=
  let named (name : String) (more : List (Text × Value)) : Value :=
    .ofFields (("name", .str name.toList) :: more)
  named "s" [
    ("tables", .ofFields [("any", named "t" [("columns", .list
      [named "c" [("type", .str "text".toList), ("references", .ofFields [])]])])]),
    ("views", .list []),
    ("functions", .list [named "f" [("parameters", .null)],
      named "g" [("returnColumns", .list [named "a" []])]]),
    ("triggers", .list [.ofFields []])]

theorem read_flawed : Schema.isShaped flawed = true ∧
    Schema.read flawed = .error (.record ⟨"return column", .missing "type", "a"⟩) := by
  have shaped : Schema.isShaped flawed = true := by decide
  refine ⟨shaped, ((Schema.read_shaped shaped).2.1 _).mpr ?_⟩
  exact ⟨.missing ⟨"return column", .missing "type", "a"⟩,
    [.missing ⟨"function", .missing "name", "name"⟩], rfl, rfl⟩

theorem isWritable_int_iff {n : Int} :
    (Value.int n).isWritable = true ↔ n.natAbs < Nat.pow 10 Number.digitLimit := by
  rw [Value.isWritable, decide_eq_true_iff]
  have positive : 0 < Number.digitLimit := by decide
  -- The power is too large to be compared by evaluation.
  generalize Number.digitLimit = limit at positive ⊢
  exact Nat.length_toDigits_le_iff (by decide) positive

/-- The least integer without a text. -/
def longInteger : Value := .int (Nat.pow 10 Number.digitLimit)

theorem isWritable_longInteger : ¬longInteger.isWritable = true := by
  rw [longInteger, isWritable_int_iff, Int.natAbs_natCast]
  exact Nat.lt_irrefl _

/-- A schema named by `longInteger` lacks no key and fails with a fault that is no record fault. -/
theorem read_longInteger : ¬∀ data : Value, Schema.isShaped data = true →
    ((∃ schema, Schema.read data = .ok schema) ↔ Schema.IsComplete data) := by
  intro law
  let data : Value := .ofFields [("name", longInteger)]
  have shaped : Schema.isShaped data = true := rfl
  have complete : Schema.IsComplete data := Schema.missing_eq_nil.mp rfl
  have reports := (Schema.begins shaped).reports (Schema.reports_read data)
  have flawless : Schema.flaws data = [] :=
    List.map_eq_nil_iff.mp (reports.ok_iff.mp ((law data shaped).mpr complete))
  have writable : Schema.IsWritable data := Schema.writable_flaws.mp (by simp [flawless])
  exact isWritable_longInteger (writable.name longInteger rfl)

end TypedCatalog.Catalog
