import TypedCatalog.Proofs.SqlType.Normal

/-! `IsCanonical` characterizes the normal forms of column types: lower case, single blanks between
words, and no parenthesized groups. `normalize` is a projection onto them, and inserting a group
does not change it. -/
namespace TypedCatalog.SqlType

open Text (IsSqueezed squeeze)

variable {c : Char} {text name front inside back : Text}

/-- No closing parenthesis follows an opening one. -/
def IsUngrouped (text : Text) : Prop := ¬ ['(', ')'].Sublist text

theorem isUngrouped_of_free (free : ')' ∉ text) : IsUngrouped text :=
  fun group => free (group.subset (by simp))

theorem isUngrouped_cons (other : c ≠ '(') : IsUngrouped (c :: text) ↔ IsUngrouped text := by
  refine not_congr ⟨fun group => ?_, fun group => group.cons c⟩
  cases group with
  | cons _ group => exact group
  | cons_cons => contradiction

theorem isUngrouped_opening : IsUngrouped ('(' :: text) ↔ ')' ∉ text := by
  rw [IsUngrouped, List.cons_sublist_cons, List.singleton_sublist]

/-- `dropGroups` returns ungrouped text: the text held since an opening contains no closing, and is
emitted only if none follows. -/
theorem isUngrouped_dropGroups {group : Option Text} (held : ')' ∉ group.getD []) (text : Text) :
    IsUngrouped (dropGroups group text) := by
  induction text generalizing group with
  | nil => exact isUngrouped_of_free (by simpa [dropGroups] using held)
  | cons c text ih =>
    cases group with
    | none =>
      by_cases opening : c = '('
      · rw [dropGroups, if_pos opening]
        apply ih
        simp [opening]
      · rw [dropGroups_cons opening, isUngrouped_cons opening]
        exact ih held
    | some opened =>
      by_cases closing : c = ')'
      · rw [dropGroups, if_pos closing]
        exact ih List.not_mem_nil
      · rw [dropGroups, if_neg closing]
        apply ih
        simpa using ⟨Ne.symm closing, held⟩

namespace IsUngrouped

theorem dropGroups (ungrouped : IsUngrouped text) : SqlType.dropGroups none text = text := by
  induction text with
  | nil => rfl
  | cons c text ih =>
    by_cases opening : c = '('
    · subst opening
      exact dropGroups_open ['('] (isUngrouped_opening.mp ungrouped)
    · rw [dropGroups_cons opening, ih ((isUngrouped_cons opening).mp ungrouped)]

/-- Squeezing white space preserves `IsUngrouped`. -/
theorem squeeze (ungrouped : IsUngrouped text) : IsUngrouped (Text.squeeze text) := by
  intro group
  have visible := group.filter (!Text.isBlank ·)
  rw [Text.filter_squeeze] at visible
  exact ungrouped (visible.trans List.filter_sublist)

end IsUngrouped

structure IsCanonical (name : Text) : Prop where
  squeezed : IsSqueezed name
  ungrouped : IsUngrouped name
  lower : ∀ c ∈ name, Text.IsLower c

theorem isCanonical_normalize (name : Text) : IsCanonical (normalize name) := by
  rw [normalize_eq]
  constructor
  · exact Text.isSqueezed_squeeze _
  · exact (isUngrouped_dropGroups List.not_mem_nil _).squeeze
  · intro c member
    rcases Text.mem_squeeze member with rfl | member
    · exact ⟨rfl, by decide⟩
    · exact Text.isLower_lowerAfter c ((dropGroups_sublist _ none).subset member)

theorem IsCanonical.normalize (canonical : IsCanonical name) : SqlType.normalize name = name := by
  rw [normalize_eq, Text.lower, Text.lowerAfter_stays canonical.lower,
    canonical.ungrouped.dropGroups, canonical.squeezed.squeeze]

/-- `normalize` is invariant under inserting a group, provided that no earlier opening takes its
closing, and that no capital sigma changes its form at the end of a word. -/
theorem normalize_insert (opening : '(' ∉ front) (closing : ')' ∉ inside)
    (sigma : ∀ c ∈ front ++ back, c.toNat ≠ 0x3a3) :
    normalize (front ++ '(' :: (inside ++ ')' :: back)) = normalize (front ++ back) := by
  have small : Text.lower (front ++ back) = Text.lower front ++ Text.lower back := by
    obtain ⟨first, last⟩ := List.forall_mem_append.mp sigma
    rw [Text.lower_flatMap sigma, Text.lower_flatMap first, Text.lower_flatMap last,
      List.flatMap_append]
  have free : '(' ∉ Text.lower front := fun member =>
    opening (Text.mem_of_mem_lower (by decide) (by decide) member)
  have held : ')' ∉ Text.lower inside := fun member =>
    closing (Text.mem_of_mem_lower (by decide) (by decide) member)
  rw [normalize_eq, normalize_eq, Text.isMark_opening.lower_append, Text.isMark_closing.lower_append,
    dropGroups_before free, dropGroups, if_pos rfl, dropGroups_closed held, small,
    dropGroups_before free]

/-- ASCII text. -/
def IsBasic (text : Text) : Prop := ∀ c ∈ text, c.toNat < 0x80

instance : DecidablePred IsBasic := fun text => List.decidableBAll _ text

/-- `normalize` is idempotent with `IsCanonical` values, and `declaredWith`, `category` and
`initial` are invariant under it. For ASCII text without parentheses it is invariant under inserting
such a text in parentheses at any position. -/
theorem normalize_normalize (name : Text) :
    IsCanonical (normalize name) ∧ normalize (normalize name) = normalize name ∧
    (∀ sample, declaredWith sample (normalize name) = declaredWith sample name) ∧
    category (normalize name) = category name ∧ initial (normalize name) = initial name ∧
    ∀ front back, name = front ++ back → IsBasic name → '(' ∉ name → ')' ∉ name →
      ∀ inside, IsBasic inside → '(' ∉ inside → ')' ∉ inside →
        normalize (front ++ '(' :: (inside ++ ')' :: back)) = normalize name := by
  have canonical := isCanonical_normalize name
  have again := canonical.normalize
  refine ⟨canonical, again, fun sample => ?_, ?_, ?_, ?_⟩
  · rw [declaredWith, declaredWith, again]
  · rw [category, category, again]
  · rw [initial, initial, again]
  · rintro front back rfl basic opening - inside - - closing
    refine normalize_insert (fun member => opening (List.mem_append_left _ member)) closing ?_
    intro c member sigma
    have low := basic c member
    omega

/-- A group between two words, beside blanks of several kinds. -/
theorem normalize_normalize_double :
    let front : Text := "\tDouble "
    let inside : Text := " 53"
    let back : Text := "\n PRECISION"
    IsBasic (front ++ back) ∧ '(' ∉ front ++ back ∧ ')' ∉ front ++ back ∧
      IsBasic inside ∧ '(' ∉ inside ∧ ')' ∉ inside ∧
      normalize (front ++ back) = "double precision" ∧
      normalize (front ++ '(' :: (inside ++ ')' :: back)) = normalize (front ++ back) := by
  intro front inside back
  have basic : IsBasic (front ++ back) := by decide
  have opening : '(' ∉ front ++ back := by decide
  have closing : ')' ∉ front ++ back := by decide
  have basicToo : IsBasic inside := by decide
  have openingToo : '(' ∉ inside := by decide
  have closingToo : ')' ∉ inside := by decide
  obtain ⟨-, -, -, -, -, inserted⟩ := normalize_normalize (front ++ back)
  exact ⟨basic, opening, closing, basicToo, openingToo, closingToo, by decide,
    inserted front back rfl basic opening closing inside basicToo openingToo closingToo⟩

/-- A closing matches the first opening before it; an opening without a closing stays. -/
example : normalize "Bit ((3) (VARYING(" = "bit (varying(".toList := by decide

end TypedCatalog.SqlType
