import TypedCatalog.Proofs.Text.Case
import TypedCatalog.Proofs.Text.Words
import TypedCatalog.SqlType

/-! `SqlType.normalize` of a type with array marks: `dropGroups` and squeezing commute with text
around a type. -/
namespace TypedCatalog.SqlType

open Text (IsGap squeeze)

variable {c : Char} {text more : Text} {group : Option Text}

/-- An open group holds the text until a closing. -/
theorem dropGroups_open (held : Text) (free : ')' ∉ text) :
    dropGroups (some held) text = held.reverse ++ text := by
  induction text generalizing held with
  | nil => simp [dropGroups]
  | cons c text ih =>
    obtain ⟨other, free⟩ := List.ne_and_not_mem_of_not_mem_cons free
    simp [dropGroups, other.symm, ih _ free]

theorem dropGroups_free (free : ')' ∉ text) : dropGroups none text = text := by
  induction text with
  | nil => rfl
  | cons c text ih =>
    obtain ⟨other, free⟩ := List.ne_and_not_mem_of_not_mem_cons free
    by_cases opening : c = '('
    · simp [dropGroups, opening, dropGroups_open _ free]
    · simp [dropGroups, opening, ih free]

/-- Text without closings is emitted after the rest. -/
theorem dropGroups_append (free : ')' ∉ more) (text : Text) (group : Option Text) :
    dropGroups group (text ++ more) = dropGroups group text ++ more := by
  induction text generalizing group with
  | nil =>
    cases group with
    | none => exact dropGroups_free free
    | some held => simpa [dropGroups] using dropGroups_open held free
  | cons c text ih =>
    cases group with
    | none => by_cases opening : c = '(' <;> simp [dropGroups, opening, ih]
    | some held => by_cases closing : c = ')' <;> simp [dropGroups, closing, ih]

theorem dropGroups_cons (other : c ≠ '(') (text : Text) :
    dropGroups none (c :: text) = c :: dropGroups none text := by
  rw [dropGroups, if_neg other]

theorem dropGroups_before (free : '(' ∉ text) (more : Text) :
    dropGroups none (text ++ more) = text ++ dropGroups none more := by
  induction text with
  | nil => rfl
  | cons c text ih =>
    obtain ⟨other, free⟩ := List.ne_and_not_mem_of_not_mem_cons free
    rw [List.cons_append, dropGroups_cons other.symm, ih free, List.cons_append]

/-- An open group drops the text before the first closing. -/
theorem dropGroups_closed (free : ')' ∉ text) (held more : Text) :
    dropGroups (some held) (text ++ ')' :: more) = dropGroups none more := by
  induction text generalizing held with
  | nil => simp [dropGroups]
  | cons c text ih =>
    obtain ⟨other, free⟩ := List.ne_and_not_mem_of_not_mem_cons free
    simp [dropGroups, other.symm, ih free]

theorem dropGroups_sublist (text : Text) (group : Option Text) :
    (dropGroups group text).Sublist ((group.getD []).reverse ++ text) := by
  induction text generalizing group with
  | nil => simp [dropGroups]
  | cons c text ih =>
    cases group with
    | none =>
      by_cases opening : c = '('
      · simpa [dropGroups, opening] using ih (some ['('])
      · simpa [dropGroups, opening] using ih none
    | some held =>
      by_cases closing : c = ')'
      · have rest : (dropGroups none text).Sublist text := by simpa using ih none
        have longer : text.Sublist (held.reverse ++ ')' :: text) :=
          (List.sublist_cons_self _ _).trans (List.sublist_append_right _ _)
        simpa [dropGroups, closing] using rest.trans longer
      · simpa [dropGroups, closing] using ih (some (c :: held))

theorem not_mem_gap {gap : Text} (blank : IsGap gap) (visible : Text.isBlank c = false) :
    c ∉ gap := by
  intro member
  rw [blank c member] at visible
  contradiction

theorem normalize_eq (name : Text) :
    normalize name = squeeze (dropGroups none (Text.lower name)) := by
  change squeeze (dropGroups none (Text.trim (Text.lower name))) = _
  obtain ⟨front, back, blank, blankToo, split⟩ := Text.trim_exists (Text.lower name)
  generalize Text.trim (Text.lower name) = middle at split ⊢
  rw [split, dropGroups_before (not_mem_gap blank rfl), Text.squeeze_gap_append blank,
    dropGroups_append (not_mem_gap blankToo rfl), Text.squeeze_append_gap _ blankToo]

theorem isTrimmed_normalize (name : Text) : Text.IsTrimmed (normalize name) :=
  Text.isTrimmed_squeeze _

/-- `normalize` of `arrayOf` ends with the brackets, after at most one blank. -/
theorem normalize_arrayOf (name : Text) :
    ∃ gap, IsGap gap ∧ normalize (arrayOf name) = arrayOf (normalize name ++ gap) := by
  have brackets : Text.lower [']'] = [']'] := rfl
  have visible : ∀ c ∈ ['[', ']'], Text.isBlank c = false := by
    rw [List.forall_mem_cons, List.forall_mem_singleton]
    exact ⟨rfl, rfl⟩
  obtain ⟨gap, small, split⟩ := Text.squeeze_append_word (dropGroups none (Text.lower name))
    visible (List.cons_ne_nil _ _)
  refine ⟨gap, ?_, ?_⟩
  · rcases small with rfl | ⟨rfl, -⟩
    · exact List.forall_mem_nil _
    · exact List.forall_mem_singleton.mpr (by decide)
  · rw [normalize_eq, normalize_eq, arrayOf, Text.isMark_bracket.lower_append, brackets,
      dropGroups_append (by decide), split, arrayOf, List.append_assoc]

/-- `normalize` of an underscored type starts with the underscore, before at most one blank. -/
theorem normalize_underscore (name : Text) :
    ∃ gap, IsGap gap ∧ normalize ('_' :: name) = '_' :: (gap ++ normalize name) := by
  have lowered : Text.lower ('_' :: name) = '_' :: Text.lower name :=
    Text.isMark_underscore.lower_append [] name
  refine ⟨Text.gapBefore (dropGroups none (Text.lower name)), Text.isGap_gapBefore _, ?_⟩
  rw [normalize_eq, normalize_eq, lowered, dropGroups_cons (by decide),
    Text.squeeze_cons (by decide)]

end TypedCatalog.SqlType
