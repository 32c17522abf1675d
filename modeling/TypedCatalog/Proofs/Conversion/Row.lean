import TypedCatalog.Proofs.Conversion.Target

/-! Idempotence of `convertTo` and `convertRow` on `IsPlain` types, and the fields of converted
rows. -/
namespace TypedCatalog.Conversion

open SqlType (levels jsonType numberType stringType)
open Value (Entries lookup?)

variable {target : Target} {name declared : Text} {value result : Value} {row fields : Entries}
  {types : List (Text × Text)}

/-- The target below all array levels is not JSON. -/
def IsPlain (declared : Text) : Prop := ∀ depth, declared ≠ jsonType ++ levels depth

theorem isPlain_iff : IsPlain declared ↔ (Target.ofName declared).isJson = false := by
  rw [Bool.eq_false_iff, Ne, Target.isJson_ofName_iff, not_exists]
  rfl

instance : DecidablePred IsPlain := fun _ => decidable_of_iff _ isPlain_iff.symm

theorem convert_toNumber (run : toNumber value = .ok result) :
    convert .number result = .ok result := by
  obtain ⟨n, rfl⟩ | ⟨x, rfl⟩ := toNumber_cases run
  · rfl
  · rfl

theorem convert_convert (plain : target.isJson = false) (run : convert target value = .ok result) :
    convert target result = .ok result := by
  induction target generalizing value result with
  | number =>
    cases gives_of_convert run with
    | null => rfl
    | number _ run => exact convert_toNumber run
  | boolean =>
    cases gives_of_convert run with
    | null => rfl
    | boolean _ => rfl
  | string =>
    cases gives_of_convert run with
    | null => rfl
    | string _ _ => rfl
  | json => contradiction
  | array item ih =>
    cases gives_of_convert run with
    | null => rfl
    | @list _ _ items results _ _ each =>
      have stays : ∀ inner ∈ results, convert item inner = .ok inner := fun inner member => by
        obtain ⟨source, -, run⟩ := mapM_ok each inner member
        exact ih plain run
      have again : (results.map id).mapM (convert item) = .ok results := mapM_map stays
      rw [List.map_id] at again
      exact congrArg (Except.map Value.list) again
  | other =>
    cases gives_of_convert run with
    | null => rfl
    | other given => exact convert_other given

theorem convertTo_convertTo (plain : IsPlain declared)
    (run : convertTo (.str declared) value = .ok result) :
    convertTo (.str declared) result = .ok result := by
  rw [convertTo_str] at run ⊢
  exact convert_convert (isPlain_iff.mp plain) run

/-- The types as a mapping from field names. -/
def entriesOf (types : List (Text × Text)) : Entries :=
  types.map fun (name, declared) => (.str name, .str declared)

theorem entriesOf_cons (name declared : Text) (types : List (Text × Text)) :
    entriesOf ((name, declared) :: types) = (.str name, .str declared) :: entriesOf types := rfl

theorem convertRow_dict (row : Entries) (types : List (Text × Text)) :
    convertRow (.dict row) (.dict (entriesOf types)) =
      (convertFields (.dict row) (entriesOf types)).map .dict := by
  have held : Value.entries (.dict (entriesOf types)) = .ok (entriesOf types) := rfl
  rw [convertRow, held, ok_bind]
  cases convertFields (.dict row) (entriesOf types) <;> rfl

theorem convertFields_absent (absent : lookup? name row = none) :
    convertFields (.dict row) (entriesOf ((name, declared) :: types)) =
      convertFields (.dict row) (entriesOf types) := by
  have missing : (Value.dict row).hasMember (Value.str name).shown = .ok false := by
    rw [Value.shown, Value.hasMember, absent]
    rfl
  rw [entriesOf_cons, convertFields, missing, ok_bind]
  rfl

theorem convertFields_held (held : lookup? name row = some value) :
    convertFields (.dict row) (entriesOf ((name, declared) :: types)) =
      convertTo (.str declared) value >>= fun result =>
        (convertFields (.dict row) (entriesOf types)).map ((.str name, result) :: ·) := by
  have member : (Value.dict row).hasMember (Value.str name).shown = .ok true := by
    rw [Value.shown, Value.hasMember, held]
    rfl
  have found : (Value.dict row).member (Value.str name).shown = .ok value := by
    rw [Value.shown, Value.member, held]
  rw [entriesOf_cons, convertFields, member, ok_bind]
  simp only [if_true, found, ok_bind]
  refine bind_congr fun result => ?_
  cases convertFields (.dict row) (entriesOf types) <;> rfl

/-- The fields that the row holds, in the order of the types, each with its converted value. -/
inductive GivesFields (row : Entries) : List (Text × Text) → Entries → Prop where
  | nil : GivesFields row [] []
  | absent {name declared : Text} {types : List (Text × Text)} {fields : Entries} :
      lookup? name row = none → GivesFields row types fields →
      GivesFields row ((name, declared) :: types) fields
  | held {name declared : Text} {types : List (Text × Text)} {value result : Value}
      {fields : Entries} : lookup? name row = some value →
      convertTo (.str declared) value = .ok result → GivesFields row types fields →
      GivesFields row ((name, declared) :: types) ((.str name, result) :: fields)

theorem convertFields_iff :
    convertFields (.dict row) (entriesOf types) = .ok fields ↔ GivesFields row types fields := by
  constructor
  · intro run
    induction types generalizing fields with
    | nil =>
      cases run
      exact .nil
    | cons type types ih =>
      cases found : lookup? type.1 row with
      | none =>
        rw [convertFields_absent found] at run
        exact .absent found (ih run)
      | some value =>
        rw [convertFields_held found] at run
        obtain ⟨result, first, run⟩ := bind_ok run
        obtain ⟨others, rest, rfl⟩ := map_ok run
        exact .held found first (ih rest)
  · intro gives
    induction gives with
    | nil => rfl
    | absent found _ ih => rw [convertFields_absent found, ih]
    | held found first _ ih =>
      rw [convertFields_held found, first, ih]
      rfl

namespace GivesFields

theorem keys (gives : GivesFields row types fields) : fields.map Prod.fst =
    ((types.map Prod.fst).filter fun name => (lookup? name row).isSome).map .str := by
  induction gives with
  | nil => rfl
  | absent found _ ih => simp [found, ih]
  | held found _ _ ih => simp [found, ih]

theorem lookup?_none (gives : GivesFields row types fields) (new : name ∉ types.map Prod.fst) :
    lookup? name fields = none := by
  induction gives with
  | nil => rfl
  | absent _ _ ih => exact ih (List.ne_and_not_mem_of_not_mem_cons new).2
  | held _ _ _ ih =>
    obtain ⟨other, new⟩ := List.ne_and_not_mem_of_not_mem_cons new
    rw [lookup?, if_neg other.symm, ih new]

/-- Converted fields convert to themselves. -/
theorem again (gives : GivesFields row types fields) (distinct : (types.map Prod.fst).Nodup)
    (plain : ∀ type ∈ types, IsPlain type.2) {other : Entries}
    (same : ∀ name ∈ types.map Prod.fst, lookup? name other = lookup? name fields) :
    GivesFields other types fields := by
  induction gives with
  | nil => exact .nil
  | @absent name _ types fields _ rest ih =>
    obtain ⟨new, distinct⟩ := List.nodup_cons.mp distinct
    obtain ⟨first, same⟩ := List.forall_mem_cons.mp same
    refine .absent (first.trans (rest.lookup?_none new)) (ih distinct ?_ same)
    exact (List.forall_mem_cons.mp plain).2
  | @held name declared types value result fields _ run rest ih =>
    obtain ⟨new, distinct⟩ := List.nodup_cons.mp distinct
    obtain ⟨first, same⟩ := List.forall_mem_cons.mp same
    obtain ⟨plain, others⟩ := List.forall_mem_cons.mp plain
    have found : lookup? name other = some result := by rw [first, lookup?, if_pos rfl]
    refine .held found (convertTo_convertTo plain run) (ih distinct others ?_)
    · intro inner member
      have apart : name ≠ inner := fun equal => new (equal ▸ member)
      rw [same inner member, lookup?, if_neg apart]

end GivesFields

/-- `convertTo` and `convertRow` are idempotent on types that are `IsPlain`, and a converted row has
the keys of `types` that the row holds, in the order of `types`. JSON targets are excluded, since
decoded text may decode again. -/
theorem convert_again :
    (∀ (declared : Text) (value result : Value), IsPlain declared →
      convertTo (.str declared) value = .ok result →
      convertTo (.str declared) result = .ok result) ∧
    ∀ (row : Entries) (types : List (Text × Text)) (result : Value), (types.map Prod.fst).Nodup →
      (∀ type ∈ types, IsPlain type.2) →
      convertRow (.dict row) (.dict (entriesOf types)) = .ok result →
      convertRow result (.dict (entriesOf types)) = .ok result ∧
      ∃ fields, result = .dict fields ∧ fields.map Prod.fst =
        ((types.map Prod.fst).filter fun name => (lookup? name row).isSome).map .str := by
  refine ⟨fun declared value result plain run => convertTo_convertTo plain run, ?_⟩
  intro row types result distinct plain run
  rw [convertRow_dict] at run
  obtain ⟨fields, done, rfl⟩ := map_ok run
  have gives := convertFields_iff.mp done
  refine ⟨?_, fields, rfl, gives.keys⟩
  rw [convertRow_dict, convertFields_iff.mpr (gives.again distinct plain fun _ _ => rfl)]
  rfl

/-- Types in another order than the fields, one of them without a field. -/
def rowTypes : List (Text × Text) :=
  [("scores", "number[]"), ("note", "number"), ("id", "number"), ("extra", "unknown")]

theorem convert_again_row :
    let row : Entries := [(.ofText "id", .ofText " 7"), (.ofText "extra", .list [.ofText "[1]"]),
      (.ofText "scores", .ofText "\x7b8, 9\x7d"), (.ofText "left", .null)]
    let fields : Entries := [(.ofText "scores", .list [.int 8, .int 9]), (.ofText "id", .int 7),
      (.ofText "extra", .list [.ofText "[1]"])]
    (rowTypes.map Prod.fst).Nodup ∧ (∀ type ∈ rowTypes, IsPlain type.2) ∧
      convertRow (.dict row) (.dict (entriesOf rowTypes)) = .ok (.dict fields) ∧
      convertRow (.dict fields) (.dict (entriesOf rowTypes)) = .ok (.dict fields) ∧
      IsPlain "number[][]" ∧
      convertTo (.ofText "number[][]") (.ofText "\x7b\x7b4\x7d,\x7b5\x7d\x7d") =
        .ok (.list [.list [.int 4], .list [.int 5]]) ∧
      convertTo (.ofText "number[][]") (.list [.list [.int 4], .list [.int 5]]) =
        .ok (.list [.list [.int 4], .list [.int 5]]) := by
  intro row fields
  have distinct : (rowTypes.map Prod.fst).Nodup := by decide
  have plain : ∀ type ∈ rowTypes, IsPlain type.2 := by decide
  have scores : convertTo (.ofText "number[]") (.ofText "\x7b8, 9\x7d") =
      .ok (.list [.int 8, .int 9]) := by cbv
  have id : convertTo (.ofText "number") (.ofText " 7") = .ok (.int 7) := by cbv
  have extra : convertTo (.ofText "unknown") (.list [.ofText "[1]"]) =
      .ok (.list [.ofText "[1]"]) := by rfl
  have gives : GivesFields row rowTypes fields :=
    .held rfl scores (.absent rfl (.held rfl id (.held rfl extra .nil)))
  have run : convertRow (.dict row) (.dict (entriesOf rowTypes)) = .ok (.dict fields) := by
    rw [convertRow_dict, convertFields_iff.mpr gives]
    rfl
  have again := (convert_again.2 row rowTypes (.dict fields) distinct plain run).1
  have nested : IsPlain "number[][]" := by decide
  have first : convertTo (.ofText "number[][]") (.ofText "\x7b\x7b4\x7d,\x7b5\x7d\x7d") =
      .ok (.list [.list [.int 4], .list [.int 5]]) := by cbv
  exact ⟨distinct, plain, run, again, nested, first, convert_again.1 _ _ _ nested first⟩

end TypedCatalog.Conversion
