import TypedCatalog.Proofs.Json.RoundTrip
import TypedCatalog.Value.Access

/-! `IsDocument` is closed under taking parts. Documents have a text, which is empty for the empty
text only. -/
namespace TypedCatalog

theorem Binary64.write_ne_nil {shape : Shape} (infinity : shape.infinity ≠ [])
    (undefined : shape.undefined ≠ []) (x : Binary64) : x.write shape ≠ [] := by
  cases x with
  | finite negative units =>
    refine List.append_ne_nil_of_right_ne_nil _ ?_
    unfold magnitude
    split
    · decide
    · dsimp only
      split
      · unfold positional
        split
        · exact List.cons_ne_nil _ _
        · split <;> simp
        · exact List.cons_ne_nil _ _
      · unfold scientific
        refine List.append_ne_nil_of_left_ne_nil (List.append_ne_nil_of_right_ne_nil _ ?_) _
        split <;> decide
  | infinite negative => exact List.append_ne_nil_of_right_ne_nil _ infinity
  | undefined => exact undefined

theorem Text.ofInt_ne_nil (n : Int) : Text.ofInt n ≠ [] := by
  cases n with
  | ofNat n => exact Text.ofNat_ne_nil n
  | negSucc n => exact List.cons_ne_nil _ _

namespace Value

theorem areWritable_iff {items : List Value} :
    areWritable items = true ↔ ∀ item ∈ items, item.isWritable = true := by
  induction items with
  | nil => simp [areWritable]
  | cons item items ih => rw [areWritable, Bool.and_eq_true, ih, List.forall_mem_cons]

theorem areWritableEntries_iff {entries : Entries} : areWritableEntries entries = true ↔
    ∀ entry ∈ entries, entry.1.isWritable = true ∧ entry.2.isWritable = true := by
  induction entries with
  | nil => simp [areWritableEntries]
  | cons entry entries ih =>
    rw [areWritableEntries, Bool.and_eq_true, Bool.and_eq_true, ih, List.forall_mem_cons]

end Value

namespace Json.IsDocument

variable {entries : Value.Entries} {value member : Value} {name : Text}

/-- The entries of a document have text keys and documents as values. -/
theorem fields (document : IsDocument (.dict entries)) :
    ∃ fields : List (Text × Value), entries = fields.map (fun field => (.str field.1, field.2)) ∧
      (fields.map Prod.fst).Nodup ∧ ∀ field ∈ fields, IsDocument field.2 := by
  generalize shape : Value.dict entries = value at document
  cases document with
  | dict distinct documents =>
    cases shape
    exact ⟨_, rfl, distinct, documents⟩
  | _ => cases shape

theorem lookup (document : IsDocument (.dict entries))
    (found : Value.lookup? name entries = some value) : IsDocument value := by
  obtain ⟨fields, rfl, -, documents⟩ := document.fields
  clear document
  induction fields with
  | nil => cases found
  | cons field fields ih =>
    rw [List.map_cons, Value.lookup?] at found
    split at found
    · cases found
      exact documents field List.mem_cons_self
    · exact ih found fun other inside => documents other (List.mem_cons_of_mem _ inside)

theorem items {items : List Value} (document : IsDocument value) (run : value.items = .ok items) :
    ∀ item ∈ items, IsDocument item := by
  cases document with
  | null | bool | int | float => cases run
  | str text =>
    cases run
    intro item inside
    obtain ⟨c, -, rfl⟩ := List.mem_map.mp inside
    exact .str [c]
  | list documents =>
    cases run
    exact documents
  | dict distinct documents =>
    cases run
    intro item inside
    rw [List.map_map] at inside
    obtain ⟨field, -, rfl⟩ := List.mem_map.mp inside
    exact .str field.1

/-- Integers of documents are within the digit limit. -/
theorem isWritable (document : IsDocument value) : value.isWritable = true := by
  induction document with
  | null | bool | float | str => rfl
  | int short => exact decide_eq_true short
  | list _ ih => exact Value.areWritable_iff.mpr ih
  | dict _ _ ih =>
    refine Value.areWritableEntries_iff.mpr fun entry member => ?_
    obtain ⟨field, inside, rfl⟩ := List.mem_map.mp member
    exact ⟨rfl, ih field inside⟩

theorem text (document : IsDocument value) : value.text = .ok value.shown :=
  if_pos document.isWritable

theorem shown_ne_nil (document : IsDocument value) (other : value ≠ .str []) :
    value.shown ≠ [] := by
  cases document with
  | null => decide
  | bool b => cases b <;> decide
  | int _ => exact Text.ofInt_ne_nil _
  | float _ => exact Binary64.write_ne_nil (by decide) (by decide) _
  | str text =>
    rintro rfl
    exact other rfl
  | list _ => simp [Value.shown, Value.quoted, Value.bracketed]
  | dict _ _ => simp [Value.shown, Value.quoted, Value.ofFields, Value.bracketed]

theorem pick {spellings : List Text} (document : IsDocument value)
    (run : value.pick spellings = .ok (some member)) : IsDocument member := by
  induction spellings with
  | nil => cases run
  | cons name names ih =>
    unfold Value.pick at run
    split at run
    · cases run
    · exact ih run
    · split at run
      · cases run
      · exact ih run
      · rename_i found
        cases run
        unfold Value.member at found
        split at found
        · split at found
          · rename_i held
            cases found
            exact document.lookup held
          · cases found
        · cases found

end Json.IsDocument
end TypedCatalog
