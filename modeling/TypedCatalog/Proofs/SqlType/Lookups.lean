import TypedCatalog.Proofs.SqlType.Arrays
import TypedCatalog.Proofs.SqlType.Canonical

/-! The look-ups of a column type: `declaredWith`, `category` and `initial` are those of an array,
or the fields of one row, the first that matches the normal form. -/
namespace TypedCatalog.SqlType

variable {name : Text} {entry : Row}

/-- The row matches the name, and no earlier row does. -/
structure IsFirst (entry : Row) (name : Text) : Prop where
  holds : entry.pattern.holds name = true
  first : ∃ before after, rows = before ++ entry :: after ∧
    ∀ earlier ∈ before, earlier.pattern.holds name = false

theorem isFirst_iff_find? :
    IsFirst entry name ↔ rows.find? (fun row => row.pattern.holds name) = some entry := by
  rw [List.find?_eq_some_iff_append]
  constructor
  · rintro ⟨holds, before, after, split, earlier⟩
    exact ⟨holds, before, after, split, fun other member => by simp [earlier other member]⟩
  · rintro ⟨holds, before, after, split, earlier⟩
    exact ⟨holds, before, after, split, fun other member => by simpa using earlier other member⟩

theorem eq_row_of_isFirst (first : IsFirst entry name) : entry = row name := by
  rw [row, isFirst_iff_find?.mp first, Option.getD_some]

/-- On text without line feeds there is a first matching row. -/
theorem isFirst_row (line : '\n' ∉ name) : IsFirst (row name) name := by
  have last : otherRow.pattern.holds name = true := decide_eq_true line
  have found : (rows.find? fun row => row.pattern.holds name).isSome = true := by
    rw [List.find?_isSome]
    exact ⟨otherRow, List.mem_append_right _ List.mem_cons_self, last⟩
  obtain ⟨entry, found⟩ := Option.isSome_iff_exists.mp found
  rw [row, found, Option.getD_some]
  exact isFirst_iff_find?.mpr found

theorem row_eq_known (name : Text) :
    row name = (knownRows.find? fun row => row.pattern.holds name).getD otherRow := by
  rw [row, rows, List.find?_append]
  cases knownRows.find? fun row => row.pattern.holds name with
  | some entry => rfl
  | none =>
    rw [Option.none_or, List.find?_singleton]
    split
    · rfl
    · rfl

theorem row_mem (name : Text) : row name ∈ rows := by
  rw [row_eq_known]
  cases found : knownRows.find? fun row => row.pattern.holds name with
  | none => exact List.mem_append_right _ List.mem_cons_self
  | some entry => exact List.mem_append_left _ (List.mem_of_find?_eq_some found)

theorem row_eq_other_iff :
    row name = otherRow ↔ ∀ known ∈ knownRows, known.pattern.holds name = false := by
  have apart : otherRow ∉ knownRows := by decide
  have unknown : (∀ known ∈ knownRows, known.pattern.holds name = false) ↔
      knownRows.find? (fun row => row.pattern.holds name) = none := by
    simp only [List.find?_eq_none, Bool.not_eq_true]
  rw [row_eq_known, unknown]
  cases found : knownRows.find? fun row => row.pattern.holds name with
  | none => exact iff_of_true rfl rfl
  | some entry =>
    refine iff_of_false (fun same => apart ?_) (Option.some_ne_none entry)
    rw [← same]
    exact List.mem_of_find?_eq_some found

/-- No row has the category of arrays. -/
theorem scalar_of_mem (member : entry ∈ rows) :
    entry.category ≠ .array ∧ entry.initial ≠ "[]" ∧ ¬ ['[', ']'] <:+ entry.declared := by
  have all : ∀ entry ∈ rows,
      entry.category ≠ .array ∧ entry.initial ≠ "[]" ∧ ¬ ['[', ']'] <:+ entry.declared := by decide
  exact all entry member

/-- `declaredWith` is `declared`, since the rows contain the structured types. -/
theorem declaredWith_eq (sample : Value) (name : Text) :
    declaredWith sample name = declared name := by
  have json : (row "json").declared = jsonType := by decide
  have jsonb : (row "jsonb").declared = jsonType := by decide
  simp only [declaredWith, declared, Structured.text]
  split
  · rename_i structured
    rcases Bool.or_eq_true_iff.mp structured with same | same
    · rw [of_decide_eq_true same, json]
    · rw [of_decide_eq_true same, jsonb]
  · rfl

theorem baseAndDepth_scalar (scalar : element? name = none) : baseAndDepth name = (name, 0) := by
  rw [baseAndDepth]
  cases name.length with
  | zero => rfl
  | succ fuel => rw [stripArrays, scalar]

/-- The three look-ups of an array, and of any other type. -/
theorem lookups_cases (name : Text) :
    (category name = .array ∧ initial name = "[]" ∧ ['[', ']'] <:+ declared name) ∨
    (category name = (row (normalize name)).category ∧
      initial name = (row (normalize name)).initial ∧
      declared name = (row (normalize name)).declared) := by
  rw [category, initial, declared_eq]
  cases found : element? (normalize name) with
  | none =>
    right
    rw [baseAndDepth_scalar found]
    exact ⟨rfl, rfl, List.append_nil _⟩
  | some element =>
    left
    refine ⟨rfl, rfl, ?_⟩
    rw [baseAndDepth_element found, append_levels_succ]
    exact List.suffix_append _ _

/-- The three look-ups select arrays together. For any other type a unique row `IsFirst` for the
normal form and its fields are the results; it is `otherRow` if and only if no row of `knownRows`
matches. -/
theorem lookups_agree (sample : Value) (name : Text) :
    (category name = .array ↔ initial name = "[]") ∧
    (initial name = "[]" ↔ ['[', ']'] <:+ declaredWith sample name) ∧
    (category name ≠ .array → ∃ entry,
      (∀ other, IsFirst other (normalize name) ↔ other = entry) ∧
      declaredWith sample name = entry.declared ∧ category name = entry.category ∧
      initial name = entry.initial ∧
      (entry = otherRow ↔ ∀ known ∈ knownRows, known.pattern.holds (normalize name) = false)) := by
  rw [declaredWith_eq]
  rcases lookups_cases name with ⟨array, brackets, nested⟩ | ⟨kind, literal, type⟩
  · refine ⟨iff_of_true array brackets, iff_of_true brackets nested, ?_⟩
    intro other
    contradiction
  · obtain ⟨noArray, noBrackets, scalar⟩ := scalar_of_mem (row_mem (normalize name))
    rw [kind, literal, type]
    refine ⟨iff_of_false noArray noBrackets, iff_of_false noBrackets scalar, fun _ => ?_⟩
    have line : '\n' ∉ normalize name := fun member =>
      absurd ((isCanonical_normalize name).squeezed.blanks _ member rfl) (by decide)
    refine ⟨row (normalize name), fun other => ⟨eq_row_of_isFirst, ?_⟩, rfl, rfl, rfl,
      row_eq_other_iff⟩
    rintro rfl
    exact isFirst_row line

/-- A structured type in another spelling, with a sample. -/
theorem lookups_agree_json :
    category " JsonB (1)" ≠ .array ∧ ∃ entry,
      (∀ other, IsFirst other (normalize " JsonB (1)") ↔ other = entry) ∧
      entry.declared = jsonType ∧ entry.category = .json ∧ entry.initial = "\x7b\x7d" ∧
      entry ≠ otherRow := by
  have scalar : category " JsonB (1)" ≠ .array := by decide
  obtain ⟨-, -, row⟩ := lookups_agree (.list [.int 1]) " JsonB (1)"
  obtain ⟨entry, first, declared, category, initial, other⟩ := row scalar
  refine ⟨scalar, entry, first, ?_, ?_, ?_, ?_⟩
  · exact declared.symm.trans (by decide)
  · exact category.symm.trans (by decide)
  · exact initial.symm.trans (by decide)
  · intro last
    exact absurd (other.mp last) (by decide)

/-- No known row matches a lone underscore. -/
example : category "_" = .other ∧ initial "_" = "undefined" ∧ declared "_" = unknownType := by decide

end TypedCatalog.SqlType
