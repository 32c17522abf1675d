import TypedCatalog.Proofs.Json.Readings
import TypedCatalog.Proofs.Json.RoundTrip

/-! Every value that `Json.read` returns is a document. -/
namespace TypedCatalog.Json

open Text

theorem isDigit_takeWhole (text : Text) : ∀ c ∈ (takeWhole text).1, isDigit c = true := by
  unfold takeWhole
  split
  · simp [isDigit]
  · exact List.all_eq_true.mp List.all_takeWhile

/-- A number has at most as many digits as it was read from. -/
theorem length_ofNat_le {digits : Text} (inside : ∀ c ∈ digits, isDigit c = true)
    (nonempty : digits ≠ []) : (ofNat (numberOf digits)).length ≤ digits.length :=
  (Nat.length_toDigits_le_iff (by decide) (List.length_pos_iff.mpr nonempty)).mpr
    (numberOf_lt inside)

theorem isDocument_readMagnitude {start : Nat} {negative : Bool} {text rest : Text} {value : Value}
    (read : readMagnitude start negative text = .ok (value, rest)) : IsDocument value := by
  have inside := isDigit_takeWhole text
  unfold readMagnitude at read
  split at read
  · contradiction
  · rename_i whole left nonempty parts
    rw [parts] at inside
    simp only at read
    split at read
    · split at read
      · contradiction
      · rename_i short
        obtain ⟨rfl, _⟩ := Prod.mk.inj (Except.ok.inj read)
        have length := length_ofNat_le inside nonempty
        simp only at length
        apply IsDocument.int
        have magnitude : (Number.signed negative (numberOf whole)).natAbs = numberOf whole := by
          cases negative <;> simp [Number.signed]
        have same : numberOf whole = Number.ofDigits (digitValues whole) := rfl
        rw [← same, magnitude]
        omega
    · obtain ⟨rfl, _⟩ := Prod.mk.inj (Except.ok.inj read)
      exact .float (Binary64.isDouble_ofDecimal _ _ _)

theorem isDocument_words : ∀ word ∈ words, IsDocument word.2 := by
  intro word member
  simp only [words, List.mem_cons, List.not_mem_nil, or_false] at member
  rcases member with rfl | rfl | rfl | rfl | rfl | rfl
  · exact .null
  · exact .bool true
  · exact .bool false
  · exact .float fun _ _ => by simp
  · exact .float fun _ _ => by simp
  · exact .float fun _ _ => by simp

theorem isDocument_readScalar {text rest : Text} {value : Value}
    (read : readScalar text = .ok (value, rest)) : IsDocument value := by
  unfold readScalar at read
  split at read
  · rename_i found word
    obtain rfl := Except.ok.inj read
    obtain ⟨entry, member, found⟩ := List.exists_of_findSome?_eq_some word
    obtain ⟨_, _, same⟩ := Option.map_eq_some_iff.mp found
    obtain ⟨rfl, _⟩ := Prod.mk.inj same
    exact isDocument_words entry member
  · split at read
    · exact isDocument_readMagnitude read
    · exact isDocument_readMagnitude read

/-- Entries with text keys and documents as values. -/
def HoldsDocuments (entries : Value.Entries) : Prop :=
  ∃ fields : List (Text × Value), entries = fields.map (fun field => (.str field.1, field.2)) ∧
    ∀ field ∈ fields, IsDocument field.2

/-- `put` preserves fields and their order. -/
theorem put_fields (fields : List (Text × Value)) (name : Text) (value : Value) :
    ∃ after : List (Text × Value),
      Value.put (fields.map fun field => (.str field.1, field.2)) (.str name) value =
        after.map (fun field => (.str field.1, field.2)) ∧
      after.map Prod.fst = (if name ∈ fields.map Prod.fst then fields.map Prod.fst
        else fields.map Prod.fst ++ [name]) ∧
      ∀ field ∈ after, field ∈ fields ∨ field.2 = value := by
  induction fields with
  | nil => exact ⟨[(name, value)], rfl, rfl, by simp⟩
  | cons field fields ih =>
    by_cases same : field.1 = name
    · refine ⟨(field.1, value) :: fields, ?_, ?_, ?_⟩
      · simp [Value.put, sameKey_str, same]
      · simp [same]
      · simp +contextual
    · obtain ⟨after, put, keys, members⟩ := ih
      refine ⟨field :: after, ?_, ?_, ?_⟩
      · simp [Value.put, sameKey_str, same, put]
      · simp only [List.map_cons, keys, List.mem_cons, Ne.symm same, false_or]
        split <;> rfl
      · intro held member
        rcases List.mem_cons.mp member with rfl | member
        · simp
        · rcases members held member with found | found
          · simp [found]
          · exact .inr found

theorem isDocument_ofEntries {entries : Value.Entries} (holds : HoldsDocuments entries) :
    IsDocument (.dict (Value.ofEntries entries)) := by
  obtain ⟨fields, rfl, documents⟩ := holds
  have general : ∀ left held : List (Text × Value), (held.map Prod.fst).Nodup →
      (∀ field ∈ held, IsDocument field.2) → (∀ field ∈ left, IsDocument field.2) →
      IsDocument (.dict ((left.map fun field => (Value.str field.1, field.2)).foldl
        (fun held entry => Value.put held entry.1 entry.2)
        (held.map fun field => (.str field.1, field.2)))) := by
    intro left
    induction left with
    | nil =>
      intro held distinct documents _
      exact .dict distinct documents
    | cons field left ih =>
      intro held distinct documents others
      obtain ⟨document, others⟩ := List.forall_mem_cons.mp others
      obtain ⟨after, put, keys, members⟩ := put_fields held field.1 field.2
      simp only [List.map_cons, List.foldl_cons, put]
      refine ih after ?_ ?_ others
      · rw [keys]
        split
        · exact distinct
        · rename_i new
          refine List.nodup_append.mpr ⟨distinct, by simp, ?_⟩
          rintro name member _ found rfl
          exact new (List.mem_singleton.mp found ▸ member)
      · intro held member
        rcases members held member with found | found
        · exact documents held found
        · rwa [found]
  exact general fields [] List.nodup_nil (by simp) documents

/-- The readers with this fuel yield documents. -/
structure GivesDocuments (fuel : Nat) : Prop where
  values : ∀ text value rest, readValue fuel text = .ok (value, rest) → IsDocument value
  items : ∀ text items rest, readItems fuel text = .ok (items, rest) →
    ∀ item ∈ items, IsDocument item
  entries : ∀ text entries rest, readEntries fuel text = .ok (entries, rest) →
    HoldsDocuments entries

namespace GivesDocuments

variable {fuel : Nat} {text rest : Text}

theorem readsValue (gives : GivesDocuments fuel) {value : Value}
    (reads : ReadsValue fuel text value rest) : IsDocument value := by
  cases reads with
  | text _ => exact .str _
  | noItems _ => exact .list (List.forall_mem_nil _)
  | items _ found => exact .list (gives.items _ _ _ found)
  | noEntries _ => exact isDocument_ofEntries ⟨[], rfl, List.forall_mem_nil _⟩
  | entries _ found => exact isDocument_ofEntries (gives.entries _ _ _ found)
  | scalar _ found => exact isDocument_readScalar found

theorem readsItems (gives : GivesDocuments fuel) {items : List Value}
    (reads : ReadsItems fuel text items rest) : ∀ item ∈ items, IsDocument item := by
  cases reads with
  | last first _ => exact List.forall_mem_singleton.mpr (gives.values _ _ _ first)
  | more first _ others =>
    exact List.forall_mem_cons.mpr ⟨gives.values _ _ _ first, gives.items _ _ _ others⟩

theorem readsEntry (gives : GivesDocuments fuel) {entry : Value × Value}
    (reads : ReadsEntry fuel text entry rest) :
    ∃ name value, entry = (.str name, value) ∧ IsDocument value := by
  cases reads with
  | named _ _ first => exact ⟨_, _, rfl, gives.values _ _ _ first⟩

theorem readsEntries (gives : GivesDocuments fuel) {entries : Value.Entries}
    (reads : ReadsEntries fuel text entries rest) : HoldsDocuments entries := by
  cases reads with
  | last first _ =>
    obtain ⟨name, value, rfl, document⟩ := gives.readsEntry first
    exact ⟨[(name, value)], rfl, List.forall_mem_singleton.mpr document⟩
  | more first _ others =>
    obtain ⟨name, value, rfl, document⟩ := gives.readsEntry first
    obtain ⟨fields, rfl, documents⟩ := gives.entries _ _ _ others
    exact ⟨(name, value) :: fields, rfl, List.forall_mem_cons.mpr ⟨document, documents⟩⟩

theorem all (fuel : Nat) : GivesDocuments fuel := by
  induction fuel with
  | zero => constructor <;> simp [readValue, readItems, readEntries]
  | succ fuel gives =>
    constructor
    · intro text value rest read
      exact gives.readsValue (readValue_iff.mp read)
    · intro text items rest read
      exact gives.readsItems (readItems_iff.mp read)
    · intro text entries rest read
      exact gives.readsEntries (readEntries_iff.mp read)

end GivesDocuments

/-- `Json.read` yields documents, so that its results round-trip through `Json.write`. -/
theorem isDocument_read {text : Text} {value : Value} (read : Json.read text = .ok value) :
    IsDocument value := by
  obtain ⟨-, rest, first, -⟩ := read_iff.mp read
  exact (GivesDocuments.all _).values _ _ _ first

end TypedCatalog.Json
