import TypedCatalog.Proofs.SqlType.Normal
import TypedCatalog.Proofs.Text.Split

/-! Array levels: `declared` maps every trailing pair of brackets and every leading underscore to
one pair of brackets. -/
namespace TypedCatalog.SqlType

open Text (IsGap IsTrimmed)

variable {name element gap : Text}

theorem element?_arrayOf (name : Text) : element? (arrayOf name) = some name := by
  have brackets : Text.before? "[]" (arrayOf name) = some name := Text.before?_append name ['[', ']']
  simp only [element?, brackets]

theorem element?_underscore (filled : name ≠ []) (other : ∀ inner, '_' :: name ≠ arrayOf inner) :
    element? ('_' :: name) = some name := by
  have uncut : Text.before? "[]" ('_' :: name) = none := by
    refine Option.eq_none_iff_forall_ne_some.mpr fun inner found => ?_
    exact other inner (Text.eq_of_before? found)
  obtain ⟨c, rest, rfl⟩ := List.exists_cons_of_ne_nil filled
  simp only [element?, uncut]

/-- The element type before brackets, or after an underscore. -/
theorem element?_cases (found : element? name = some element) :
    name = arrayOf element ∨ name = '_' :: element := by
  unfold element? at found
  split at found
  · rename_i inner before
    obtain rfl := Option.some.inj found
    exact .inl (Text.eq_of_before? before)
  · split at found
    · exact .inr (congrArg _ (Option.some.inj found))
    · cases found

theorem length_element (found : element? name = some element) : element.length < name.length := by
  rcases element?_cases found with rfl | rfl
  · simp [arrayOf]
  · simp

/-- `stripArrays` does not depend on its fuel if the length bounds it. -/
theorem stripArrays_congr {first second : Nat} (enough : name.length ≤ first)
    (enoughToo : name.length ≤ second) : stripArrays first name = stripArrays second name := by
  induction first generalizing second name with
  | zero =>
    obtain rfl := List.length_eq_zero_iff.mp (Nat.le_zero.mp enough)
    cases second with
    | zero => rfl
    | succ second => rfl
  | succ first ih =>
    cases second with
    | zero =>
      obtain rfl := List.length_eq_zero_iff.mp (Nat.le_zero.mp enoughToo)
      rfl
    | succ second =>
      rw [stripArrays, stripArrays]
      cases found : element? name with
      | none => rfl
      | some element =>
        have shorter := length_element found
        have trimmed := Text.length_trim_le element
        have same : stripArrays first (Text.trim element) = stripArrays second (Text.trim element) :=
          ih (by omega) (by omega)
        dsimp only
        rw [same]

theorem baseAndDepth_element (found : element? name = some element) :
    baseAndDepth name =
      ((baseAndDepth (Text.trim element)).1, (baseAndDepth (Text.trim element)).2 + 1) := by
  have shorter := length_element found
  have trimmed := Text.length_trim_le element
  obtain ⟨fuel, enough⟩ : ∃ fuel, name.length = fuel + 1 := ⟨name.length - 1, by omega⟩
  rw [baseAndDepth, enough, stripArrays, found]
  dsimp only
  rw [stripArrays_congr (by omega) (Nat.le_refl _), ← baseAndDepth]

theorem baseAndDepth_arrayOf (trimmed : IsTrimmed name) (blank : IsGap gap) :
    baseAndDepth (arrayOf (name ++ gap)) = ((baseAndDepth name).1, (baseAndDepth name).2 + 1) := by
  rw [baseAndDepth_element (element?_arrayOf _), trimmed.trim_back blank]

/-- An underscore does not complete brackets, unless the text itself ends with them. -/
theorem underscore_ne_arrayOf (filled : name ≠ []) (other : ∀ inner, name ≠ arrayOf inner)
    (blank : IsGap gap) (inner : Text) : '_' :: (gap ++ name) ≠ arrayOf inner := by
  intro same
  have suffix : name <:+ '_' :: (gap ++ name) := ⟨'_' :: gap, rfl⟩
  have brackets : ['[', ']'] <:+ '_' :: (gap ++ name) := same ▸ List.suffix_append inner _
  rcases Nat.lt_or_ge name.length 2 with short | long
  · -- A bracket that closes alone would leave the one that opens to what stands in front.
    obtain ⟨c, rfl⟩ : ∃ c, name = [c] := by
      apply List.length_eq_one_iff.mp
      have positive := List.length_pos_iff.mpr filled
      omega
    have front : '_' :: gap = inner ++ ['['] := by
      have both : '_' :: gap ++ [c] = inner ++ ['['] ++ [']'] := by
        simpa [arrayOf] using same
      exact (List.append_inj' both rfl).1
    have opening : '[' ∈ '_' :: gap := front ▸ List.mem_append_right _ List.mem_cons_self
    rcases List.mem_cons.mp opening with same | inside
    · contradiction
    · have visible := blank _ inside
      contradiction
  · obtain ⟨inner, same⟩ := List.suffix_of_suffix_length_le brackets suffix long
    exact other inner same.symm

theorem baseAndDepth_underscore (trimmed : IsTrimmed name) (blank : IsGap gap)
    (filled : (baseAndDepth name).1 ≠ []) : baseAndDepth ('_' :: (gap ++ name)) =
      ((baseAndDepth name).1, (baseAndDepth name).2 + 1) := by
  induction length : name.length using Nat.strong_induction_on generalizing name with
  | h size ih =>
    have nonempty : name ≠ [] := by
      rintro rfl
      exact filled rfl
    by_cases brackets : ∃ inner, name = arrayOf inner
    · -- The brackets are taken off first, and the underscore stands before what they leave.
      obtain ⟨inner, rfl⟩ := brackets
      have levels := baseAndDepth_element (element?_arrayOf inner)
      rw [levels] at filled ⊢
      have left : Text.trim inner ≠ [] := by
        intro empty
        rw [empty] at filled
        exact filled rfl
      have starts : inner.dropWhile Text.isBlank = inner := by
        cases inner with
        | nil => rfl
        | cons c inner => exact List.dropWhile_cons_of_neg (by simp [trimmed.head])
      have found : element? ('_' :: (gap ++ arrayOf inner)) = Option.some ('_' :: (gap ++ inner)) := by
        simpa [arrayOf] using element?_arrayOf ('_' :: (gap ++ inner))
      have shorter : (Text.trim inner).length < size := by
        have lengths := Text.length_trim_le inner
        have brackets : (arrayOf inner).length = inner.length + 2 := List.length_append
        omega
      rw [baseAndDepth_element found, Text.trim_behind (by decide) gap starts left,
        ih _ shorter (Text.isTrimmed_trim inner) filled rfl]
    · have other : ∀ inner, name ≠ arrayOf inner := fun inner same => brackets ⟨inner, same⟩
      have found : element? ('_' :: (gap ++ name)) = Option.some (gap ++ name) :=
        element?_underscore (by simp [nonempty]) (underscore_ne_arrayOf nonempty other blank)
      rw [baseAndDepth_element found, trimmed.trim_front blank]

/-- `count` pairs of brackets. -/
def levels (count : Nat) : Text := (List.replicate count ['[', ']']).flatten

theorem levels_add (first second : Nat) : levels (first + second) = levels first ++ levels second := by
  rw [levels, List.replicate_add, List.flatten_append, levels, levels]

theorem append_levels_succ (name : Text) (count : Nat) :
    name ++ levels (count + 1) = arrayOf (name ++ levels count) := by
  rw [levels_add, ← List.append_assoc]
  rfl

theorem nested_eq (depth : Nat) (item : Text) : nested depth item = item ++ levels depth := by
  induction depth generalizing item with
  | zero => exact (List.append_nil item).symm
  | succ depth ih =>
    rw [nested, ih, Nat.add_comm, levels_add, ← List.append_assoc]
    rfl

theorem declared_eq (name : Text) : declared name =
    (row (baseAndDepth (normalize name)).1).declared ++ levels (baseAndDepth (normalize name)).2 :=
  nested_eq _ _

theorem baseAndDepth_normalize_arrayOf (name : Text) : baseAndDepth (normalize (arrayOf name)) =
    ((baseAndDepth (normalize name)).1, (baseAndDepth (normalize name)).2 + 1) := by
  obtain ⟨gap, blank, shape⟩ := normalize_arrayOf name
  rw [shape, baseAndDepth_arrayOf (isTrimmed_normalize name) blank]

theorem baseAndDepth_normalize_underscore (filled : (baseAndDepth (normalize name)).1 ≠ []) :
    baseAndDepth (normalize ('_' :: name)) =
      ((baseAndDepth (normalize name)).1, (baseAndDepth (normalize name)).2 + 1) := by
  obtain ⟨gap, blank, shape⟩ := normalize_underscore name
  rw [shape, baseAndDepth_underscore (isTrimmed_normalize name) blank filled]

theorem baseAndDepth_normalize_levels (name : Text) (count : Nat) :
    baseAndDepth (normalize (name ++ levels count)) =
      ((baseAndDepth (normalize name)).1, (baseAndDepth (normalize name)).2 + count) := by
  induction count with
  | zero => rw [show levels 0 = [] from rfl, List.append_nil, Nat.add_zero]
  | succ count ih => rw [append_levels_succ, baseAndDepth_normalize_arrayOf, ih, Nat.add_assoc]

theorem baseAndDepth_normalize_underscores (filled : (baseAndDepth (normalize name)).1 ≠ [])
    (count : Nat) : baseAndDepth (normalize (List.replicate count '_' ++ name)) =
      ((baseAndDepth (normalize name)).1, (baseAndDepth (normalize name)).2 + count) := by
  induction count with
  | zero => rfl
  | succ count ih =>
    have still : (baseAndDepth (normalize (List.replicate count '_' ++ name))).1 ≠ [] := by rwa [ih]
    rw [List.replicate_succ, List.cons_append, baseAndDepth_normalize_underscore still, ih,
      Nat.add_assoc]

/-- `declared` commutes with `levels` for every text. It also turns leading underscores into levels,
unless the type without its levels is empty. -/
theorem declared_levels (name : Text) :
    (∀ n, declared (name ++ levels n) = declared name ++ levels n) ∧
    ((baseAndDepth (normalize name)).1 ≠ [] → ∀ m n,
      declared (List.replicate m '_' ++ name ++ levels n) = declared name ++ levels (m + n)) := by
  have behind (name : Text) (n : Nat) : declared (name ++ levels n) = declared name ++ levels n := by
    rw [declared_eq, declared_eq, baseAndDepth_normalize_levels, levels_add, List.append_assoc]
  refine ⟨behind name, fun filled m n => ?_⟩
  have front : declared (List.replicate m '_' ++ name) = declared name ++ levels m := by
    rw [declared_eq, declared_eq, baseAndDepth_normalize_underscores filled, levels_add,
      List.append_assoc]
  calc declared (List.replicate m '_' ++ name ++ levels n)
    _ = declared (List.replicate m '_' ++ name) ++ levels n := behind _ n
    _ = declared name ++ levels m ++ levels n := by rw [front]
    _ = declared name ++ levels (m + n) := by rw [List.append_assoc, ← levels_add]

/-- Two underscores and a level, for a type with blanks and a length. -/
theorem declared_levels_varchar :
    let name : Text := " _VarChar (10) "
    (baseAndDepth (normalize name)).1 ≠ [] ∧ declared name = "string[]" ∧
      declared (['_', '_'] ++ name ++ ['[', ']']) = "string[][][][]" := by
  have filled : (baseAndDepth (normalize " _VarChar (10) ")).1 ≠ [] := by decide
  refine ⟨filled, by decide, ?_⟩
  have nested := (declared_levels " _VarChar (10) ").2 filled 2 1
  exact nested.trans (by decide)

/-- If nothing but array levels follows, an underscore is a type of its own. -/
example : declared "_[]" = "unknown[]" := by decide

end TypedCatalog.SqlType
