import TypedCatalog.Proofs.Conversion.Row
import TypedCatalog.Proofs.Json.LongIntegers
import TypedCatalog.Proofs.Number.Integers
import TypedCatalog.Proofs.Value.Documents

/-! Totality of conversions up to overlong integers: the only fault is that of a text read as JSON
that `Overruns` the digit limit. All other results are documents. -/
namespace TypedCatalog.Conversion

open Json (IsDocument HasRun HoldsDocuments)
open SqlType (jsonType)
open Value (Entries lookup?)

variable {α β : Type} {target : Target} {value : Value} {text : Text}

/-- The texts that the conversion of a value reads as JSON, including those of its items. -/
inductive Decodes : Target → Value → Text → Prop where
  | json (text : Text) : Decodes .json (.str text) text
  | array (item : Target) (text : Text) : Decodes (.array item) (.str text) text
  | item {item : Target} {value inner : Value} {items : List Value} {text : Text} :
      itemsOf value = .ok items → inner ∈ items → Decodes item inner text →
      Decodes (.array item) value text

/-- The JSON reader stops at an integer beyond the digit limit. -/
def Overruns (text : Text) : Prop := ∃ count, Json.read text = .error (.tooLong count)

/-- Some text that the conversion reads `Overruns`. -/
def Stumbles (target : Target) (value : Value) : Prop :=
  ∃ text, Decodes target value text ∧ Overruns text

/-- The operation fails with `tooLong` if and only if the condition holds, and otherwise yields a
value with the property. -/
inductive Ends {α : Type} (holds : α → Prop) (stops : Prop) : Except Fault α → Prop where
  | ok {result : α} : holds result → ¬stops → Ends holds stops (.ok result)
  | tooLong {count : Nat} : Number.digitLimit < count → stops →
      Ends holds stops (.error (.content (.tooLong count)))

namespace Ends

variable {holds : α → Prop} {holdsToo : β → Prop} {stops other : Prop} {result : Except Fault α}

theorem fails (ends : Ends holds stops result) (stop : stops) :
    ∃ count, result = .error (.content (.tooLong count)) := by
  cases ends with
  | ok _ passes => exact absurd stop passes
  | tooLong _ _ => exact ⟨_, rfl⟩

theorem congr (ends : Ends holds stops result) (same : stops ↔ other) :
    Ends holds other result := by
  cases ends with
  | ok good passes => exact .ok good (same.not.mp passes)
  | tooLong long stop => exact .tooLong long (same.mp stop)

theorem map {change : α → β} (ends : Ends holds stops result)
    (keeps : ∀ value, holds value → holdsToo (change value)) :
    Ends holdsToo stops (result.map change) := by
  cases ends with
  | ok good passes => exact .ok (keeps _ good) passes
  | tooLong long stop => exact .tooLong long stop

theorem bind {next : α → Except Fault β} {later : α → Prop} (ends : Ends holds stops result)
    (rest : ∀ value, holds value → Ends holdsToo (later value) (next value)) :
    Ends holdsToo (stops ∨ ∃ value, result = .ok value ∧ later value) (result >>= next) := by
  cases ends with
  | ok good passes =>
    refine (rest _ good).congr ⟨fun stop => .inr ⟨_, rfl, stop⟩, ?_⟩
    rintro (stop | ⟨value, same, stop⟩)
    · exact absurd stop passes
    · cases same
      exact stop
  | tooLong long stop => exact .tooLong long (.inl stop)

/-- `Ends` for two operations in sequence. -/
theorem both {γ : Type} {whole : γ → Prop} {next : Except Fault β} {pair : α → β → γ}
    (first : Ends holds stops result) (second : Ends holdsToo other next)
    (joins : ∀ value more, holds value → holdsToo more → whole (pair value more)) :
    Ends whole (stops ∨ other) (result >>= fun value => next.map (pair value)) := by
  cases first with
  | tooLong long stop => exact .tooLong long (.inl stop)
  | ok good passes =>
    cases second with
    | tooLong long stop => exact .tooLong long (.inr stop)
    | ok goods pass => exact .ok (joins _ _ good goods) (not_or.mpr ⟨passes, pass⟩)

theorem mapM {items : List α} {next : α → Except Fault β} {later : α → Prop}
    (each : ∀ item ∈ items, Ends holdsToo (later item) (next item)) :
    Ends (fun results => ∀ result ∈ results, holdsToo result) (∃ item ∈ items, later item)
      (items.mapM next) := by
  induction items with
  | nil => exact .ok (List.forall_mem_nil _) (by simp)
  | cons item items ih =>
    obtain ⟨first, others⟩ := List.forall_mem_cons.mp each
    have step : (item :: items).mapM next =
        next item >>= fun result => (items.mapM next).map (result :: ·) := by
      rw [List.mapM_cons]
      cases items.mapM next <;> rfl
    rw [step]
    refine (first.both (ih others) fun _ _ good goods => ?_).congr (by simp)
    exact List.forall_mem_cons.mpr ⟨good, goods⟩

end Ends

theorem isDouble_readMagnitude? {negative : Bool} {x : Binary64}
    (read : Number.readMagnitude? negative text = some x) : x.IsDouble := by
  unfold Number.readMagnitude? at read
  dsimp only at read
  split at read
  · cases read
  · split at read
    · cases read
      exact Binary64.isDouble_ofDecimal _ _ _
    · cases read

theorem isDouble_readBinary64? {x : Binary64} (read : Number.readBinary64? text = some x) :
    x.IsDouble := by
  unfold Number.readBinary64? at read
  dsimp only at read
  split at read
  · cases read
    exact fun _ _ => by simp
  · split at read
    · cases read
      exact fun _ _ => by simp
    · exact isDouble_readMagnitude? read

theorem isDocument_numberIn (text : Text) : IsDocument (numberIn text) := by
  unfold numberIn
  dsimp only
  split
  · rename_i read
    exact .int (Number.length_of_readInt read)
  · refine .float ?_
    cases found : Number.readBinary64? (Text.trim text) with
    | none => exact fun _ _ => by simp
    | some x => exact isDouble_readBinary64? found

theorem ends_toNumber (document : IsDocument value) :
    ∃ result, toNumber value = .ok result ∧ IsDocument result := by
  unfold toNumber
  split
  · rename_i b
    exact ⟨_, rfl, .int (by cases b <;> decide)⟩
  · exact ⟨_, rfl, document⟩
  · exact ⟨_, rfl, document⟩
  · exact ⟨_, by rw [document.text]; rfl, isDocument_numberIn _⟩

theorem ends_decoded {fallback : Value} (document : IsDocument fallback) (text : Text) :
    Ends IsDocument (Overruns text) (decoded fallback text) := by
  unfold decoded
  split
  · rename_i read
    refine .ok (Json.isDocument_read read) ?_
    rintro ⟨count, failed⟩
    rw [read] at failed
    cases failed
  · rename_i read
    refine .ok document ?_
    rintro ⟨count, failed⟩
    rw [read] at failed
    cases failed
  · rename_i read
    exact .tooLong (Json.hasRun_of_read read).long ⟨_, read⟩

theorem isDocument_literalItems (text : Text) : ∀ item ∈ literalItems text, IsDocument item := by
  unfold literalItems
  split
  · split
    · exact List.forall_mem_nil _
    · exact List.forall_mem_nil _
    · exact List.forall_mem_map.mpr fun _ _ => .str _
  · exact List.forall_mem_nil _

theorem ends_itemsOf_str (text : Text) :
    Ends (fun items => ∀ item ∈ items, IsDocument item) (Overruns text) (itemsOf (.str text)) := by
  have ends := ends_decoded .null text
  unfold itemsOf
  dsimp only
  split
  · rename_i failed
    rw [failed] at ends
    cases ends with
    | tooLong long stop => exact .tooLong long stop
  · rename_i done
    rw [done] at ends
    cases ends with
    | ok held passes =>
      cases held with
      | list documents => exact .ok documents passes
  · rename_i done
    rw [done] at ends
    cases ends with
    | ok _ passes => exact .ok (isDocument_literalItems text) passes

theorem ends_itemsOf (document : IsDocument value) :
    Ends (fun items => ∀ item ∈ items, IsDocument item) (∃ text, value = .str text ∧ Overruns text)
      (itemsOf value) := by
  have endsOther {value : Value} (other : ∀ text, value ≠ .str text) :
      ¬∃ text, value = .str text ∧ Overruns text := fun ⟨text, same, _⟩ => other text same
  cases document with
  | str text =>
    refine (ends_itemsOf_str text).congr ⟨fun stop => ⟨text, rfl, stop⟩, ?_⟩
    rintro ⟨_, same, stop⟩
    cases same
    exact stop
  | list documents => exact .ok documents (endsOther fun _ => Value.noConfusion)
  | null | bool | int | float | dict =>
    exact .ok (List.forall_mem_nil _) (endsOther fun _ => Value.noConfusion)

theorem stumbles_array {item : Target} : Stumbles (.array item) value ↔
    (∃ text, value = .str text ∧ Overruns text) ∨
      ∃ items, itemsOf value = .ok items ∧ ∃ inner ∈ items, Stumbles item inner := by
  constructor
  · rintro ⟨text, reads, stop⟩
    cases reads with
    | array => exact .inl ⟨text, rfl, stop⟩
    | item held member reads => exact .inr ⟨_, held, _, member, text, reads, stop⟩
  · rintro (⟨text, rfl, stop⟩ | ⟨items, held, inner, member, text, reads, stop⟩)
    · exact ⟨text, .array item text, stop⟩
    · exact ⟨text, .item held member reads, stop⟩

/-- Other targets than JSON and arrays read no text. -/
theorem not_stumbles_base (json : target ≠ .json) (array : ∀ item, target ≠ .array item) :
    ¬Stumbles target value := by
  rintro ⟨text, reads, -⟩
  cases reads with
  | json => exact json rfl
  | array item => exact array item rfl
  | @item item => exact array item rfl

theorem not_stumbles_null (target : Target) : ¬Stumbles target .null := by
  rintro ⟨text, reads, -⟩
  cases reads with
  | item held member _ =>
    cases held
    cases member

/-- Null reads no text. -/
theorem ends_of_visible (visible : value ≠ .null →
    Ends IsDocument (Stumbles target value) (convert target value)) :
    Ends IsDocument (Stumbles target value) (convert target value) := by
  by_cases null : value = .null
  · subst null
    rw [convert_null]
    exact .ok .null (not_stumbles_null target)
  · exact visible null

theorem ends_convert (target : Target) (document : IsDocument value) :
    Ends IsDocument (Stumbles target value) (convert target value) := by
  refine ends_of_visible fun null => ?_
  induction target generalizing value with
  | number =>
    obtain ⟨result, done, documentToo⟩ := ends_toNumber document
    rw [convert_number null, done]
    exact .ok documentToo
      (not_stumbles_base Target.noConfusion fun _ => Target.noConfusion)
  | boolean =>
    rw [convert_boolean null]
    exact .ok (.bool _) (not_stumbles_base Target.noConfusion fun _ => Target.noConfusion)
  | string =>
    rw [convert_string null, document.text]
    exact .ok (.str value.shown) (not_stumbles_base Target.noConfusion fun _ => Target.noConfusion)
  | other =>
    rw [convert_other null]
    exact .ok document (not_stumbles_base Target.noConfusion fun _ => Target.noConfusion)
  | json =>
    by_cases text : ∃ text, value = .str text
    · obtain ⟨text, rfl⟩ := text
      have empty : IsDocument (.dict []) :=
        @IsDocument.dict [] List.nodup_nil (List.forall_mem_nil _)
      refine (ends_decoded empty text).congr ⟨fun stop => ⟨text, .json text, stop⟩, ?_⟩
      rintro ⟨_, reads, stop⟩
      cases reads
      exact stop
    · rw [convert_json null fun inner same => text ⟨inner, same⟩]
      refine .ok document ?_
      rintro ⟨inner, reads, -⟩
      cases reads
      exact text ⟨inner, rfl⟩
  | array item ih =>
    rw [convert_array item null]
    refine Ends.congr ?_ stumbles_array.symm
    refine (ends_itemsOf document).bind fun items documents => ?_
    have each := fun inner member => ends_of_visible fun visible =>
      ih (documents inner member) visible
    exact (Ends.mapM each).map fun _ => .list

/-- Some field of the row `Stumbles` at its type. -/
def RowStumbles (row : Entries) (types : List (Text × Text)) : Prop :=
  ∃ type ∈ types, ∃ value, lookup? type.1 row = some value ∧ Stumbles (.ofName type.2) value

theorem ends_convertFields {row : Entries} (document : IsDocument (.dict row))
    (types : List (Text × Text)) :
    Ends HoldsDocuments (RowStumbles row types) (convertFields (.dict row) (entriesOf types)) := by
  induction types with
  | nil =>
    refine .ok ⟨[], rfl, List.forall_mem_nil _⟩ ?_
    rintro ⟨_, member, -⟩
    cases member
  | cons type types ih =>
    obtain ⟨name, declared⟩ := type
    cases found : lookup? name row with
    | none =>
      rw [convertFields_absent found]
      exact ih.congr (by simp [RowStumbles, found])
    | some value =>
      have value_document := document.lookup found
      rw [convertFields_held found, convertTo_str]
      refine ((ends_convert (.ofName declared) value_document).both ih ?_).congr
        (by simp [RowStumbles, found])
      rintro result fields good ⟨named, rfl, documents⟩
      exact ⟨(name, result) :: named, rfl, List.forall_mem_cons.mpr ⟨good, documents⟩⟩

theorem isDocument_fields {row fields : Entries} {types : List (Text × Text)}
    (distinct : (types.map Prod.fst).Nodup) (gives : GivesFields row types fields)
    (holds : HoldsDocuments fields) : IsDocument (.dict fields) := by
  obtain ⟨named, rfl, documents⟩ := holds
  refine .dict ?_ documents
  have keys := gives.keys
  rw [List.map_map] at keys
  have names : named.map Prod.fst =
      (types.map Prod.fst).filter fun name => (lookup? name row).isSome :=
    List.map_injective_iff.mpr (fun _ _ => Value.str.inj) (by rw [List.map_map]; exact keys)
  rw [names]
  exact distinct.filter _

/-- `convertTo` and `convertRow` map documents to documents, except exactly if the value `Stumbles`,
or a field of the row does. A text that `Overruns` contains a run of more digits than the limit. -/
theorem convert_ends {row : Entries} {types : List (Text × Text)} (declared : Text)
    (document : IsDocument value) (record : IsDocument (.dict row))
    (distinct : (types.map Prod.fst).Nodup) :
    Ends IsDocument (Stumbles (.ofName declared) value) (convertTo (.str declared) value) ∧
      Ends IsDocument (RowStumbles row types)
        (convertRow (.dict row) (.dict (entriesOf types))) ∧
      ∀ text, Overruns text → ∃ count, HasRun count text := by
  refine ⟨?_, ?_, ?_⟩
  · rw [convertTo_str]
    exact ends_convert (.ofName declared) document
  · have ends := ends_convertFields record types
    rw [convertRow_dict]
    cases done : convertFields (.dict row) (entriesOf types) with
    | ok fields =>
      rw [done] at ends
      cases ends with
      | ok holds passes =>
        exact .ok (isDocument_fields distinct (convertFields_iff.mp done) holds) passes
    | error fault =>
      rw [done] at ends
      cases ends with
      | tooLong long stop => exact .tooLong long stop
  · rintro text ⟨count, failed⟩
    exact ⟨count, Json.hasRun_of_read failed⟩

/-- One digit more than the limit. -/
def longDigits : Text := List.replicate (Number.digitLimit + 1) '1'

theorem overruns_longDigits : Json.read longDigits = .error (.tooLong (Number.digitLimit + 1)) := by
  have whole : Json.IsWhole longDigits := by
    refine ⟨List.cons_ne_nil _ _, fun c member => ?_, fun first => ?_⟩
    · rw [List.eq_of_mem_replicate member]
      rfl
    · cases first
  have length : longDigits.length = Number.digitLimit + 1 := List.length_replicate
  rw [Json.read_digits whole (by omega), length]

/-- One of two items is an overlong integer. -/
theorem convert_ends_row :
    let row : Entries :=
      [(.ofText "id", .int 7), (.ofText "data", .list [.ofText "\x7b\x7d", .str longDigits])]
    let types : List (Text × Text) := [("data", "Record<string, unknown>[]"), ("id", "number")]
    IsDocument (.dict row) ∧ (types.map Prod.fst).Nodup ∧
      (∃ count, convertRow (.dict row) (.dict (entriesOf types)) =
        .error (.content (.tooLong count))) ∧
      IsDocument (.str longDigits) ∧
      convertTo (.ofText "string") (.str longDigits) = .ok (.str longDigits) ∧
      Ends IsDocument False (convertTo (.ofText "string") (.str longDigits)) ∧
      Overruns longDigits ∧ ∃ count, HasRun count longDigits := by
  intro row types
  have digits : IsDocument (.str longDigits) := .str longDigits
  have data : IsDocument (.list [.ofText "\x7b\x7d", .str longDigits]) :=
    .list (List.forall_mem_cons.mpr ⟨.str _, List.forall_mem_singleton.mpr digits⟩)
  have record : IsDocument (.dict row) :=
    @IsDocument.dict [("id", .int 7), ("data", .list [.ofText "\x7b\x7d", .str longDigits])]
      (by decide) (List.forall_mem_cons.mpr ⟨.int (by decide), List.forall_mem_singleton.mpr data⟩)
  have distinct : (types.map Prod.fst).Nodup := by decide
  have overruns : Overruns longDigits := ⟨_, overruns_longDigits⟩
  have reads : Decodes (.array .json) (.list [.ofText "\x7b\x7d", .str longDigits]) longDigits :=
    .item rfl (List.mem_cons_of_mem _ List.mem_cons_self) (.json longDigits)
  have target : Target.ofName "Record<string, unknown>[]" = .array .json := by decide
  have stumbles : RowStumbles row types :=
    ⟨_, List.mem_cons_self, _, rfl, longDigits, target ▸ reads, overruns⟩
  have text : ¬Stumbles (.ofName "string") (.str longDigits) := by
    rw [show Target.ofName "string" = .string by decide]
    exact not_stumbles_base Target.noConfusion fun _ => Target.noConfusion
  obtain ⟨ends, row_ends, runs⟩ := convert_ends "string" digits record distinct
  exact ⟨record, distinct, row_ends.fails stumbles, digits, rfl, ends.congr (iff_false_intro text),
    overruns, runs longDigits overruns⟩

/-- An overlong integer has no conversion to JSON. -/
theorem convertTo_longDigits : IsDocument (.str longDigits) ∧
    convertTo (.str jsonType) (.str longDigits) =
      .error (.content (.tooLong (Number.digitLimit + 1))) ∧
    ¬∃ result, convertTo (.str jsonType) (.str longDigits) = .ok result := by
  have run : convertTo (.str jsonType) (.str longDigits) =
      .error (.content (.tooLong (Number.digitLimit + 1))) := by
    rw [convertTo_str, show Target.ofName jsonType = .json by decide, convert_json_str, decoded,
      overruns_longDigits]
  refine ⟨.str _, run, ?_⟩
  rintro ⟨result, done⟩
  rw [run] at done
  cases done

end TypedCatalog.Conversion
