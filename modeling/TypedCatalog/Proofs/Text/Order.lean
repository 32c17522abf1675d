import TypedCatalog.Text.Basic

/-! The lexicographic order of texts by code points is a linear order, so sorting depends on the
multiset only. -/
namespace TypedCatalog.Text

variable {first second third : Text}

theorem le_iff (first second : Text) : le first second = true ↔ ¬second < first := by
  induction first generalizing second with
  | nil => simp [le]
  | cons c first ih =>
    cases second with
    | nil => simp [le]
    | cons d second =>
      have order : ¬d < c ↔ c < d ∨ c = d := by
        rw [Char.not_lt, Std.le_iff_lt_or_eq]
      rw [le, Bool.or_eq_true, Bool.and_eq_true, decide_eq_true_eq, beq_iff_eq, ih,
        List.cons_lt_cons_iff, not_or, order, not_and]
      constructor
      · rintro (less | ⟨rfl, below⟩)
        · exact ⟨.inl less, fun same => absurd (same ▸ less) (Char.lt_irrefl _)⟩
        · exact ⟨.inr rfl, fun _ => below⟩
      · rintro ⟨less | rfl, below⟩
        · exact .inl less
        · exact .inr ⟨rfl, below rfl⟩

theorem le_trans (one : le first second = true) (two : le second third = true) :
    le first third = true := by
  rw [le_iff] at one two ⊢
  exact @List.le_trans Char _ _ _ _ first second third one two

theorem le_total (first second : Text) : (le first second || le second first) = true := by
  rw [Bool.or_eq_true, le_iff, le_iff]
  exact List.le_total first second

theorem le_antisymm (one : le first second = true) (two : le second first = true) :
    first = second := by
  rw [le_iff] at one two
  exact @List.le_antisymm Char _ _ first second one two

theorem lt_of_le (one : le first second = true) (different : first ≠ second) : first < second := by
  refine Decidable.byContradiction fun other => different ?_
  exact le_antisymm one ((le_iff second first).mpr other)

theorem pairwise_mergeSort (texts : List Text) :
    (texts.mergeSort le).Pairwise fun first second => le first second = true :=
  @List.pairwise_mergeSort Text le (fun _ _ _ => le_trans) le_total texts

/-- `mergeSort` is invariant under permutations. -/
theorem mergeSort_perm {texts others : List Text} (perm : texts.Perm others) :
    texts.mergeSort le = others.mergeSort le := by
  have sorted : (texts.mergeSort le).Perm (others.mergeSort le) :=
    (List.mergeSort_perm texts le).trans (perm.trans (List.mergeSort_perm others le).symm)
  exact sorted.eq_of_pairwise (fun _ _ _ _ => le_antisymm) (pairwise_mergeSort texts)
    (pairwise_mergeSort others)

end TypedCatalog.Text
