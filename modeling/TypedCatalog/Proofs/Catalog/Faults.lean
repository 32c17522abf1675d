import TypedCatalog.Catalog.Reader
import TypedCatalog.Proofs.Value.Faults

/-! The faults of a document as a list in evaluation order. `Reports` relates a reader to that list:
it fails with the head, and succeeds if the list is empty. Besides record faults there are misfits,
i.e. operations on values of the wrong kind, and integers without a text. -/
namespace TypedCatalog

/-- The operation fails with the head of the list, and succeeds if the list is empty. -/
inductive Reports {α : Type} : Except Fault α → List Fault → Prop where
  | ok (value : α) : Reports (.ok value) []
  | error (fault : Fault) (later : List Fault) : Reports (.error fault) (fault :: later)

namespace Reports

variable {α β γ : Type} {result : Except Fault α} {faults later : List Fault} {fault : Fault}

theorem ok_iff (reports : Reports result faults) : (∃ value, result = .ok value) ↔ faults = [] := by
  cases reports with
  | ok value => exact ⟨fun _ => rfl, fun _ => ⟨value, rfl⟩⟩
  | error fault later =>
    constructor
    · rintro ⟨value, same⟩
      cases same
    · intro same
      cases same

theorem error_iff (reports : Reports result faults) :
    result = .error fault ↔ faults.head? = some fault := by
  cases reports with
  | ok value =>
    constructor
    · intro same
      cases same
    · intro same
      cases same
  | error fault later => rw [Except.error.injEq, List.head?_cons, Option.some.injEq]

theorem failsOnly {allowed : Fault → Prop} (reports : Reports result faults)
    (each : ∀ fault ∈ faults, allowed fault) : FailsOnly allowed result := by
  cases reports with
  | ok value => exact .ok value
  | error fault later => exact .error (each fault List.mem_cons_self)

theorem bind {next : α → Except Fault β} (first : Reports result faults)
    (rest : ∀ value, result = .ok value → Reports (next value) later) :
    Reports (result >>= next) (faults ++ later) := by
  cases first with
  | ok value => exact rest value rfl
  | error fault more => exact .error fault (more ++ later)

theorem map {change : α → β} (reports : Reports result faults) :
    Reports (result.map change) faults := by
  cases reports with
  | ok value => exact .ok (change value)
  | error fault later => exact .error fault later

/-- A total continuation adds no fault. -/
theorem bind_ok {next : α → Except Fault β} (first : Reports result faults)
    (rest : ∀ value, result = .ok value → ∃ after, next value = .ok after) :
    Reports (result >>= next) faults := by
  rw [← List.append_nil faults]
  refine first.bind fun value same => ?_
  obtain ⟨after, done⟩ := rest value same
  rw [done]
  exact .ok after

theorem mapM {items : List γ} {read : γ → Except Fault α} {faultsOf : γ → List Fault}
    (each : ∀ item, Reports (read item) (faultsOf item)) :
    Reports (items.mapM read) (items.flatMap faultsOf) := by
  induction items with
  | nil => exact .ok []
  | cons item items ih =>
    rw [List.mapM_cons, List.flatMap_cons]
    exact (each item).bind fun _ _ => ih.bind_ok fun _ _ => ⟨_, rfl⟩

end Reports

namespace Value

/-- The value under a key, if the data is a mapping. -/
def field? (name : Text) : Value → Option Value
  | dict entries => lookup? name entries
  | _ => none

/-- The value under a key exists and is neither null nor the empty text. -/
def holds (name : Text) (data : Value) : Bool :=
  match data.field? name with
  | none | some null | some (str []) => false
  | some _ => true

/-- The membership test succeeds and denies all of the names. -/
def isWithout (names : List Text) (data : Value) : Bool :=
  names.all fun name =>
    match data.hasMember name with
    | .ok held => !held
    | .error _ => false

end Value

namespace Catalog

variable {data : Value} {entries : Value.Entries} {kind key : Text} {α : Type}
  {read : Value → Except Fault α} {faultsOf : Value → List Fault}

/-- The fault of a value without a text. -/
def textFaults (held : Option Value) : List Fault :=
  match held with
  | none => []
  | some value => if value.isWritable then [] else [.content .unwritable]

def notMapping (kind : Text) (data : Value) : List Fault :=
  if data.isDict then [] else [.record ⟨kind, .notMapping, "name"⟩]

/-- The record fault of a required key that is not held. It quotes the name of the record if there
is one. -/
def lacking (kind key : Text) (data : Value) : List RecordFault :=
  if data.holds key then []
  else [⟨kind, .missing key, ((data.field? "name").getD (.str key)).shown⟩]

/-- The faults of a required key: those of its text, or of the name that its record fault quotes and
that record fault. -/
def requiredFaults (kind key : Text) (data : Value) : List Fault :=
  textFaults (data.field? (if data.holds key then key else "name")) ++
    (lacking kind key data).map .record

/-- The fault of looking for several names in data that is no mapping, unless the membership tests
deny all of them. -/
def searchFaults (names : List Text) (data : Value) : List Fault :=
  if data.isDict || data.isWithout names then [] else [.misuse .unsupported]

/-- The faults of the parts, or the fault of taking the data apart. -/
def partFaults (faults : Value → List Fault) : Except Fault (List Value) → List Fault
  | .ok parts => parts.flatMap faults
  | .error fault => [fault]

/-- The faults of the parts of an optional value that is truthy. -/
def heldFaults (parts : Value → Except Fault (List Value)) (faults : Value → List Fault)
    (held : Option Value) : List Fault :=
  match held with
  | none => []
  | some data => if data.isTruthy then partFaults faults (parts data) else []

def listFaults : (Value → List Fault) → Option Value → List Fault := heldFaults Value.items

def groupFaults : (Value → List Fault) → Option Value → List Fault := heldFaults membersOf

def Reference.faults (data : Value) : List Fault :=
  if data.isDict then
    textFaults (data.field? "schema") ++ (textFaults (data.field? "table") ++
      textFaults (data.field? "column"))
  else [.misuse .noMember]

def referenceFaults (held : Option Value) : List Fault :=
  match held with
  | none => []
  | some data => if data.isTruthy then Reference.faults data else []

/-- The value under the first spelling that is not null. -/
def spelled? (spellings : List Text) : Value → Option Value
  | .dict entries => fieldOf entries spellings
  | _ => none

def returnSpellings : List Text := ["return_columns", "returnColumns"]

def returnTypeSpellings : List Text := ["return_type", "returnType"]

def kindSpellings : List Text := ["kind", "type"]

def objectKindSpellings : List Text := ["object_kind", "objectType", "object_type"]

def defaultSpellings : List Text := ["default_value", "defaultValue"]

def returnFaults (faults : Value → List Fault) (held : Option Value) : List Fault :=
  match held with
  | none => []
  | some data => partFaults faults data.items

def Column.faults (data : Value) : List Fault :=
  notMapping "column" data ++ (requiredFaults "column" "name" data ++
    (requiredFaults "column" "type" data ++ referenceFaults (data.field? "references")))

def Relation.faults (kind : Text) (data : Value) : List Fault :=
  notMapping kind data ++ (requiredFaults kind "name" data ++ (textFaults (data.field? "schema") ++
    listFaults Column.faults (data.field? "columns")))

def Enumeration.faults (data : Value) : List Fault :=
  notMapping "enum" data ++ (requiredFaults "enum" "name" data ++
    (textFaults (data.field? "schema") ++
      listFaults (fun value => textFaults (some value)) (data.field? "values")))

def Parameter.faults (data : Value) : List Fault :=
  searchFaults defaultSpellings data ++ (notMapping "parameter" data ++
    (requiredFaults "parameter" "name" data ++ (requiredFaults "parameter" "type" data ++
      (textFaults (data.field? "mode") ++ textFaults (spelled? defaultSpellings data)))))

def ResultColumn.faults (data : Value) : List Fault :=
  notMapping "return column" data ++ (requiredFaults "return column" "name" data ++
    requiredFaults "return column" "type" data)

def Routine.faults (data : Value) : List Fault :=
  searchFaults returnSpellings data ++ (searchFaults returnTypeSpellings data ++
    (notMapping "function" data ++ (requiredFaults "function" "name" data ++
      (textFaults (data.field? "schema") ++ (textFaults (spelled? kindSpellings data) ++
        (textFaults (spelled? objectKindSpellings data) ++
          (listFaults Parameter.faults (data.field? "parameters") ++
            (textFaults (spelled? returnTypeSpellings data) ++
              returnFaults ResultColumn.faults (spelled? returnSpellings data)))))))))

def Schema.faults (data : Value) : List Fault :=
  notMapping "schema" data ++ (requiredFaults "schema" "name" data ++
    (groupFaults (Relation.faults "table") (data.field? "tables") ++
      (groupFaults (Relation.faults "view") (data.field? "views") ++
        (groupFaults Enumeration.faults (data.field? "enums") ++
          (groupFaults Routine.faults (data.field? "functions") ++
            (groupFaults Routine.faults (data.field? "procedures") ++
              groupFaults Routine.faults (data.field? "triggers")))))))

theorem mapping_eq (mapped : mapping kind data = .ok entries) : data = .dict entries := by
  unfold mapping at mapped
  split at mapped
  · cases mapped
    rfl
  · cases mapped

theorem reports_mapping (kind : Text) (data : Value) :
    Reports (mapping kind data) (notMapping kind data) := by
  cases data with
  | dict entries => exact .ok entries
  | _ => exact .error _ []

theorem reports_text (value : Value) : Reports value.text (textFaults (some value)) := by
  unfold Value.text textFaults
  dsimp only
  split
  · exact .ok _
  · exact .error _ []

theorem reports_getD_text (held : Option Value) (default : Text) :
    Reports (held.getD (.str default)).text (textFaults held) := by
  cases held with
  | none => exact .ok default
  | some value => exact reports_text value

theorem reports_textIfHeld (held : Option Value) : Reports (textIfHeld held) (textFaults held) := by
  cases held with
  | none => exact .ok none
  | some value => exact (reports_text value).map

/-- Falsy values have a text. -/
theorem isWritable_of_empty {value : Value} (empty : value.isTruthy = false) :
    value.isWritable = true := by
  cases value with
  | int n =>
    have zero : n = 0 := by simpa [Value.isTruthy] using empty
    subst zero
    rfl
  | list items =>
    cases items with
    | nil => rfl
    | cons item items => cases empty
  | tuple items =>
    cases items with
    | nil => rfl
    | cons item items => cases empty
  | set items =>
    cases items with
    | nil => rfl
    | cons item items => cases empty
  | dict entries =>
    cases entries with
    | nil => rfl
    | cons entry entries => cases empty
  | _ => rfl

theorem reports_modeOf (entries : Value.Entries) :
    Reports (modeOf entries) (textFaults (Value.lookup? "mode" entries)) := by
  unfold modeOf
  cases Value.lookup? "mode" entries with
  | none => exact .ok _
  | some mode =>
    dsimp only
    split
    · exact (reports_text mode).map
    · rename_i empty
      rw [textFaults, if_pos (isWritable_of_empty (Bool.eq_false_iff.mpr empty))]
      exact .ok _

theorem required_eq (kind key : Text) (entries : Value.Entries) :
    required kind entries key =
      if (Value.dict entries).holds key then ((Value.lookup? key entries).getD .null).text
      else ((Value.lookup? "name" entries).getD (.str key)).text >>= fun field =>
        .error (.record ⟨kind, .missing key, field⟩) := by
  unfold required
  cases found : Value.lookup? key entries with
  | none => simp [Value.holds, Value.field?, found]; rfl
  | some value =>
    cases value with
    | null => simp [Value.holds, Value.field?, found]; rfl
    | str text => cases text <;> simp [Value.holds, Value.field?, found]; rfl
    | _ => simp [Value.holds, Value.field?, found]

theorem field?_of_holds (held : data.holds key = true) : ∃ value, data.field? key = some value := by
  cases found : data.field? key with
  | none =>
    rw [Value.holds, found] at held
    cases held
  | some value => exact ⟨value, rfl⟩

theorem reports_required (kind key : Text) (entries : Value.Entries) :
    Reports (required kind entries key) (requiredFaults kind key (.dict entries)) := by
  rw [required_eq]
  unfold requiredFaults lacking
  cases held : (Value.dict entries).holds key with
  | true =>
    obtain ⟨value, found⟩ := field?_of_holds held
    have inside : Value.lookup? key entries = some value := found
    simp only [if_true, found, inside, Option.getD_some, List.map_nil, List.append_nil]
    exact reports_text value
  | false =>
    refine (reports_getD_text (Value.lookup? "name" entries) key).bind fun field done => ?_
    rw [(Value.text_ok done).2]
    exact .error _ []

theorem pick_dict (entries : Value.Entries) (names : List Text) :
    Value.pick (.dict entries) names = .ok (fieldOf entries names) := by
  induction names with
  | nil => rfl
  | cons name names ih =>
    unfold Value.pick fieldOf
    simp only [Value.hasMember, Value.member]
    cases Value.lookup? name entries with
    | none => exact ih
    | some value =>
      cases value with
      | null => exact ih
      | _ => rfl

theorem pick_other (names : List Text) (other : data.isDict = false) :
    data.pick names =
      if data.isWithout names then .ok none else .error (.misuse .unsupported) := by
  have unsupported (name : Text) : data.member name = .error (.misuse .unsupported) := by
    cases data with
    | dict entries => cases other
    | _ => rfl
  have refused (name : Text) (fault : Fault) (refused : data.hasMember name = .error fault) :
      fault = .misuse .unsupported := by
    cases data with
    | dict _ => cases refused
    | list _ => cases refused
    | tuple _ => cases refused
    | set _ => cases refused
    | str _ => cases refused
    | _ =>
      cases refused
      rfl
  induction names with
  | nil => rfl
  | cons name names ih =>
    unfold Value.pick
    rw [unsupported, ih]
    cases found : data.hasMember name with
    | error fault => simp [Value.isWithout, found, refused name fault found]
    | ok held => cases held <;> simp [Value.isWithout, found]

theorem reports_pick (names : List Text) (data : Value) :
    Reports (data.pick names) (searchFaults names data) := by
  unfold searchFaults
  cases shape : data.isDict with
  | true =>
    cases data with
    | dict entries =>
      rw [pick_dict]
      exact .ok _
    | _ => cases shape
  | false =>
    rw [pick_other names shape]
    cases data.isWithout names with
    | true => exact .ok none
    | false => exact .error _ []

theorem reports_parts {run : List Value → Except Fault α}
    (each : ∀ parts, Reports (run parts) (parts.flatMap faultsOf))
    (parts : Except Fault (List Value)) :
    Reports (parts >>= run) (partFaults faultsOf parts) := by
  cases parts with
  | ok parts => exact each parts
  | error fault => exact .error fault []

theorem reports_readAll (each : ∀ part, Reports (read part) (faultsOf part))
    (held : Option Value) : Reports (readAll read held) (listFaults faultsOf held) := by
  unfold readAll listFaults heldFaults
  cases held with
  | none => exact .ok []
  | some data =>
    dsimp only
    split
    · exact reports_parts (fun _ => .mapM each) data.items
    · exact .ok []

theorem reports_readGroup {name : α → Text} (each : ∀ part, Reports (read part) (faultsOf part))
    (held : Option Value) : Reports (readGroup read name held) (groupFaults faultsOf held) := by
  unfold readGroup groupFaults heldFaults
  cases held with
  | none => exact .ok []
  | some data =>
    dsimp only
    split
    · refine reports_parts (fun parts => ?_) (membersOf data)
      exact (Reports.mapM each).bind_ok fun _ _ => ⟨_, rfl⟩
    · exact .ok []

theorem Reference.reports_read (data : Value) :
    Reports (Reference.read data) (Reference.faults data) := by
  cases data with
  | dict entries =>
    refine (reports_getD_text _ _).bind fun schema _ => ?_
    refine (reports_getD_text _ _).bind fun table _ => ?_
    exact (reports_getD_text _ _).bind_ok fun _ _ => ⟨_, rfl⟩
  | _ => exact .error _ []

theorem reports_readReference (held : Option Value) :
    Reports (readReference held) (referenceFaults held) := by
  unfold readReference referenceFaults
  cases held with
  | none => exact .ok none
  | some data =>
    dsimp only
    split
    · exact (Reference.reports_read data).map
    · exact .ok none

theorem Column.reports_read (data : Value) : Reports (Column.read data) (Column.faults data) := by
  refine (reports_mapping "column" data).bind fun entries mapped => ?_
  obtain rfl := mapping_eq mapped
  refine (reports_required "column" "name" entries).bind fun name _ => ?_
  refine (reports_required "column" "type" entries).bind fun type _ => ?_
  exact (reports_readReference _).bind_ok fun _ _ => ⟨_, rfl⟩

theorem Relation.reports_read (kind : Text) (data : Value) :
    Reports (Relation.read kind data) (Relation.faults kind data) := by
  refine (reports_mapping kind data).bind fun entries mapped => ?_
  obtain rfl := mapping_eq mapped
  refine (reports_required kind "name" entries).bind fun name _ => ?_
  refine (reports_getD_text _ _).bind fun schema _ => ?_
  exact (reports_readAll Column.reports_read _).bind_ok fun _ _ => ⟨_, rfl⟩

theorem Enumeration.reports_read (data : Value) :
    Reports (Enumeration.read data) (Enumeration.faults data) := by
  refine (reports_mapping "enum" data).bind fun entries mapped => ?_
  obtain rfl := mapping_eq mapped
  refine (reports_required "enum" "name" entries).bind fun name _ => ?_
  refine (reports_getD_text _ _).bind fun schema _ => ?_
  exact (reports_readAll reports_text _).bind_ok fun _ _ => ⟨_, rfl⟩

theorem Parameter.reports_read (data : Value) :
    Reports (Parameter.read data) (Parameter.faults data) := by
  refine (reports_pick _ data).bind fun default picked => ?_
  refine (reports_mapping "parameter" data).bind fun entries mapped => ?_
  obtain rfl := mapping_eq mapped
  obtain rfl := Except.ok.inj ((pick_dict entries defaultSpellings).symm.trans picked)
  refine (reports_required "parameter" "name" entries).bind fun name _ => ?_
  refine (reports_required "parameter" "type" entries).bind fun type _ => ?_
  refine (reports_modeOf entries).bind fun mode _ => ?_
  exact (reports_textIfHeld _).bind_ok fun _ _ => ⟨_, rfl⟩

theorem ResultColumn.reports_read (data : Value) :
    Reports (ResultColumn.read data) (ResultColumn.faults data) := by
  refine (reports_mapping "return column" data).bind fun entries mapped => ?_
  obtain rfl := mapping_eq mapped
  refine (reports_required "return column" "name" entries).bind fun name _ => ?_
  exact (reports_required "return column" "type" entries).bind_ok fun _ _ => ⟨_, rfl⟩

theorem Routine.reports_read (data : Value) :
    Reports (Routine.read data) (Routine.faults data) := by
  refine (reports_pick _ data).bind fun columns picked => ?_
  refine (reports_pick _ data).bind fun returnType pickedToo => ?_
  refine (reports_mapping "function" data).bind fun entries mapped => ?_
  obtain rfl := mapping_eq mapped
  obtain rfl := Except.ok.inj ((pick_dict entries returnTypeSpellings).symm.trans pickedToo)
  refine (reports_required "function" "name" entries).bind fun name _ => ?_
  refine (reports_getD_text _ _).bind fun schema _ => ?_
  refine (reports_getD_text _ _).map.bind fun kind _ => ?_
  refine (reports_getD_text _ _).map.bind fun objectKind _ => ?_
  refine (reports_readAll Parameter.reports_read _).bind fun parameters _ => ?_
  refine (reports_textIfHeld _).bind fun returnType _ => ?_
  have spelled : columns = fieldOf entries returnSpellings :=
    Except.ok.inj (picked.symm.trans (pick_dict entries returnSpellings))
  change Reports _ (returnFaults ResultColumn.faults (fieldOf entries returnSpellings))
  rw [← spelled]
  cases columns with
  | none => exact .ok _
  | some columns =>
    refine reports_parts (fun parts => ?_) columns.items
    exact (Reports.mapM ResultColumn.reports_read).map.bind_ok fun _ _ => ⟨_, rfl⟩

theorem Schema.reports_read (data : Value) : Reports (Schema.read data) (Schema.faults data) := by
  refine (reports_mapping "schema" data).bind fun entries mapped => ?_
  obtain rfl := mapping_eq mapped
  refine (reports_required "schema" "name" entries).bind fun name _ => ?_
  refine (reports_readGroup (Relation.reports_read "table") _).bind fun tables _ => ?_
  refine (reports_readGroup (Relation.reports_read "view") _).bind fun views _ => ?_
  refine (reports_readGroup Enumeration.reports_read _).bind fun enums _ => ?_
  refine (reports_readGroup Routine.reports_read _).bind fun functions _ => ?_
  refine (reports_readGroup Routine.reports_read _).bind fun procedures _ => ?_
  exact (reports_readGroup Routine.reports_read _).bind_ok fun _ _ => ⟨_, rfl⟩

/-- The faults of documents: record faults, misfits and integers without a text. -/
inductive IsOfDocument : Fault → Prop where
  | record (problem : RecordFault) : IsOfDocument (.record problem)
  | unwritable : IsOfDocument (.content .unwritable)
  | unsupported : IsOfDocument (.misuse .unsupported)
  | noMember : IsOfDocument (.misuse .noMember)

theorem items_error {fault : Fault} (refused : data.items = .error fault) :
    fault = .misuse .unsupported := by
  unfold Value.items at refused
  split at refused <;> cases refused
  rfl

theorem members_error {fault : Fault} (refused : membersOf data = .error fault) :
    fault = .misuse .unsupported := by
  unfold membersOf at refused
  split at refused
  · cases refused
  · exact items_error refused

/-- Lists of faults that documents can have. -/
def AreOfDocument (faults : List Fault) : Prop := ∀ fault ∈ faults, IsOfDocument fault

namespace AreOfDocument

variable {first second : List Fault}

theorem append (left : AreOfDocument first) (right : AreOfDocument second) :
    AreOfDocument (first ++ second) := by
  intro fault member
  exact (List.mem_append.mp member).elim (left fault) (right fault)

theorem notMapping (kind : Text) (data : Value) : AreOfDocument (notMapping kind data) := by
  intro fault member
  unfold Catalog.notMapping at member
  split at member
  · cases member
  · cases List.mem_singleton.mp member
    exact .record _

theorem text (held : Option Value) : AreOfDocument (textFaults held) := by
  intro fault member
  unfold textFaults at member
  split at member
  · cases member
  · split at member
    · cases member
    · cases List.mem_singleton.mp member
      exact .unwritable

theorem required (kind key : Text) (data : Value) :
    AreOfDocument (requiredFaults kind key data) := by
  refine (text _).append fun fault member => ?_
  obtain ⟨problem, -, rfl⟩ := List.mem_map.mp member
  exact .record problem

theorem search (names : List Text) (data : Value) : AreOfDocument (searchFaults names data) := by
  intro fault member
  unfold searchFaults at member
  split at member
  · cases member
  · cases List.mem_singleton.mp member
    exact .unsupported

theorem parts {parts : Except Fault (List Value)}
    (refused : ∀ fault, parts = .error fault → fault = .misuse .unsupported)
    (each : ∀ part, AreOfDocument (faultsOf part)) : AreOfDocument (partFaults faultsOf parts) := by
  intro fault member
  cases parts with
  | ok parts =>
    obtain ⟨part, -, inside⟩ := List.mem_flatMap.mp member
    exact each part fault inside
  | error cause =>
    cases List.mem_singleton.mp member
    rw [refused fault rfl]
    exact .unsupported

theorem held {parts : Value → Except Fault (List Value)}
    (refused : ∀ data fault, parts data = .error fault → fault = .misuse .unsupported)
    (each : ∀ part, AreOfDocument (faultsOf part)) (held : Option Value) :
    AreOfDocument (heldFaults parts faultsOf held) := by
  unfold heldFaults
  cases held with
  | none => exact List.forall_mem_nil _
  | some data =>
    dsimp only
    split
    · exact .parts (refused data) each
    · exact List.forall_mem_nil _

theorem list (each : ∀ part, AreOfDocument (faultsOf part)) (held : Option Value) :
    AreOfDocument (listFaults faultsOf held) := .held (fun _ _ => items_error) each held

theorem group (each : ∀ part, AreOfDocument (faultsOf part)) (held : Option Value) :
    AreOfDocument (groupFaults faultsOf held) := .held (fun _ _ => members_error) each held

theorem reference (data : Value) : AreOfDocument (Reference.faults data) := by
  unfold Reference.faults
  split
  · exact (text _).append ((text _).append (text _))
  · intro fault member
    cases List.mem_singleton.mp member
    exact .noMember

theorem column (data : Value) : AreOfDocument (Column.faults data) := by
  refine (notMapping _ data).append ((required _ _ data).append ((required _ _ data).append ?_))
  unfold referenceFaults
  split
  · exact List.forall_mem_nil _
  · split
    · exact reference _
    · exact List.forall_mem_nil _

theorem relation (kind : Text) (data : Value) : AreOfDocument (Relation.faults kind data) :=
  (notMapping _ data).append ((required _ _ data).append ((text _).append (list column _)))

theorem enumeration (data : Value) : AreOfDocument (Enumeration.faults data) :=
  (notMapping _ data).append ((required _ _ data).append ((text _).append
    (list (fun _ => text _) _)))

theorem parameter (data : Value) : AreOfDocument (Parameter.faults data) :=
  (search _ data).append ((notMapping _ data).append ((required _ _ data).append
    ((required _ _ data).append ((text _).append (text _)))))

theorem resultColumn (data : Value) : AreOfDocument (ResultColumn.faults data) :=
  (notMapping _ data).append ((required _ _ data).append (required _ _ data))

theorem routine (data : Value) : AreOfDocument (Routine.faults data) := by
  refine (search _ data).append ((search _ data).append ((notMapping _ data).append
    ((required _ _ data).append ((text _).append ((text _).append ((text _).append
      ((list parameter _).append ((text _).append ?_))))))))
  unfold returnFaults
  split
  · exact List.forall_mem_nil _
  · exact .parts (fun _ => items_error) resultColumn

theorem schema (data : Value) : AreOfDocument (Schema.faults data) :=
  (notMapping _ data).append ((required _ _ data).append
    ((group (relation _) _).append ((group (relation _) _).append ((group enumeration _).append
      ((group routine _).append ((group routine _).append (group routine _)))))))

end AreOfDocument

inductive RecordKind where
  | column
  | table
  | view
  | enumeration
  | parameter
  | resultColumn
  | routine
  | schema

namespace RecordKind

/-- Runs the reader of a record class for its outcome alone. -/
def check (kind : RecordKind) (data : Value) : Except Fault Unit :=
  match kind with
  | column => (Column.read data).map fun _ => ()
  | table => (readTable data).map fun _ => ()
  | view => (readView data).map fun _ => ()
  | enumeration => (Enumeration.read data).map fun _ => ()
  | parameter => (Parameter.read data).map fun _ => ()
  | resultColumn => (ResultColumn.read data).map fun _ => ()
  | routine => (Routine.read data).map fun _ => ()
  | schema => (Schema.read data).map fun _ => ()

def faults : RecordKind → Value → List Fault
  | column => Column.faults
  | table => Relation.faults "table"
  | view => Relation.faults "view"
  | enumeration => Enumeration.faults
  | parameter => Parameter.faults
  | resultColumn => ResultColumn.faults
  | routine => Routine.faults
  | schema => Schema.faults

theorem reports_check (kind : RecordKind) (data : Value) :
    Reports (kind.check data) (kind.faults data) := by
  cases kind with
  | column => exact (Column.reports_read data).map
  | table => exact (Relation.reports_read "table" data).map
  | view => exact (Relation.reports_read "view" data).map
  | enumeration => exact (Enumeration.reports_read data).map
  | parameter => exact (Parameter.reports_read data).map
  | resultColumn => exact (ResultColumn.reports_read data).map
  | routine => exact (Routine.reports_read data).map
  | schema => exact (Schema.reports_read data).map

theorem areOfDocument_faults (kind : RecordKind) (data : Value) :
    AreOfDocument (kind.faults data) := by
  cases kind with
  | column => exact .column data
  | table => exact .relation "table" data
  | view => exact .relation "view" data
  | enumeration => exact .enumeration data
  | parameter => exact .parameter data
  | resultColumn => exact .resultColumn data
  | routine => exact .routine data
  | schema => exact .schema data

/-- For every record class and value, `check` raises a fault other than a record fault if and only
if that fault is the head of `faults`, and then it is a misfit or an integer without a text. -/
theorem check_misfit_iff (kind : RecordKind) (data : Value) (fault : Fault) :
    (kind.check data = .error fault ∧ ∀ problem, fault ≠ .record problem) ↔
      (kind.faults data).head? = some fault ∧
        (fault = .misuse .unsupported ∨ fault = .misuse .noMember ∨
          fault = .content .unwritable) := by
  rw [(kind.reports_check data).error_iff]
  constructor
  · rintro ⟨first, other⟩
    refine ⟨first, ?_⟩
    cases kind.areOfDocument_faults data fault (List.mem_of_head? first) with
    | record problem => exact absurd rfl (other problem)
    | unsupported => exact .inl rfl
    | noMember => exact .inr (.inl rfl)
    | unwritable => exact .inr (.inr rfl)
  · rintro ⟨first, rfl | rfl | rfl⟩
    · exact ⟨first, fun problem same => nomatch same⟩
    · exact ⟨first, fun problem same => nomatch same⟩
    · exact ⟨first, fun problem same => nomatch same⟩

/-- `FunctionParameter` refutes that every misfit is reported as a record fault. -/
theorem check_number : ¬∀ (kind : RecordKind) (data : Value) (fault : Fault),
    kind.check data = .error fault → ∃ problem, fault = .record problem := by
  intro refused
  obtain ⟨problem, same⟩ := refused .parameter (.int 5) (.misuse .unsupported) rfl
  cases same

end RecordKind

end Catalog
end TypedCatalog
