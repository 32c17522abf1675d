import TypedCatalog.Text.Blank

/-! `wordsBy` as the nonempty pieces of `splitOnP`, the maximal runs of characters outside a class.
-/
namespace TypedCatalog.Text

variable {separates : Char → Bool} {c : Char} {text gap word : Text}

theorem splitOnP_outside (outside : separates c = true) (text : Text) :
    (c :: text).splitOnP separates = [] :: text.splitOnP separates := by
  rw [List.splitOnP_cons_eq_if_modifyHead, if_pos outside]

/-- A character outside the class extends the first piece. -/
theorem splitOnP_inside (inside : separates c = false) (text : Text) :
    ∃ piece pieces, text.splitOnP separates = piece :: pieces ∧
      (c :: text).splitOnP separates = (c :: piece) :: pieces := by
  obtain ⟨piece, pieces, shape⟩ :=
    List.exists_cons_of_ne_nil (List.splitOnP_ne_nil separates text)
  refine ⟨piece, pieces, shape, ?_⟩
  rw [List.splitOnP_cons_eq_if_modifyHead, shape]
  simp [inside]

theorem separates_piece {piece : Text} (found : piece ∈ text.splitOnP separates) :
    ∀ c ∈ piece, separates c = false := by
  induction text generalizing piece with
  | nil =>
    rw [List.mem_singleton.mp found]
    exact List.forall_mem_nil _
  | cons c text ih =>
    cases side : separates c with
    | true =>
      rw [splitOnP_outside side] at found
      rcases List.mem_cons.mp found with rfl | found
      · exact List.forall_mem_nil _
      · exact ih found
    | false =>
      obtain ⟨first, others, shape, longer⟩ := splitOnP_inside side text
      rw [shape] at ih
      rw [longer] at found
      rcases List.mem_cons.mp found with rfl | found
      · exact List.forall_mem_cons.mpr ⟨side, ih List.mem_cons_self⟩
      · exact ih (List.mem_cons_of_mem first found)

theorem splitOnP_map {form : Char → Char} (same : ∀ c, separates (form c) = separates c)
    (text : Text) : (text.map form).splitOnP separates =
      (text.splitOnP separates).map (List.map form) := by
  induction text with
  | nil => rfl
  | cons c text ih =>
    rw [List.map_cons, List.splitOnP_cons_eq_if_modifyHead, same, ih,
      List.splitOnP_cons_eq_if_modifyHead]
    split
    · rfl
    · cases text.splitOnP separates <;> rfl

/-- `wordsBy` is the filter of `splitOnP` by nonempty pieces. -/
theorem wordsBy_eq_filter (separates : Char → Bool) (text : Text) :
    wordsBy separates text = (text.splitOnP separates).filter (!·.isEmpty) := by
  induction text with
  | nil => rfl
  | cons c text ih =>
    cases side : separates c with
    | true =>
      rw [splitOnP_outside side, wordsBy.eq_def]
      simp [side, ih]
    | false =>
      obtain ⟨piece, pieces, shape, longer⟩ := splitOnP_inside side text
      rw [longer, wordsBy.eq_def]
      cases text with
      | nil =>
        obtain ⟨rfl, rfl⟩ := List.cons.inj shape
        simp [side]
      | cons next text =>
        -- A word of one character ends here, or the character belongs to the word that follows.
        cases ends : separates next with
        | true =>
          rw [splitOnP_outside ends] at ih shape
          obtain ⟨rfl, rfl⟩ := List.cons.inj shape
          simp [side, ends, ih]
        | false =>
          obtain ⟨first, others, -, joined⟩ := splitOnP_inside ends text
          rw [joined] at ih shape
          obtain ⟨rfl, rfl⟩ := List.cons.inj shape
          simp [side, ends, ih]

/-- A character outside the class extends the first word. -/
theorem wordsBy_cons (inside : separates c = false) (text : Text) :
    ∃ word words, wordsBy separates (c :: text) = (c :: word) :: words := by
  obtain ⟨piece, pieces, -, longer⟩ := splitOnP_inside inside text
  refine ⟨piece, pieces.filter (!·.isEmpty), ?_⟩
  rw [wordsBy_eq_filter, longer]
  rfl

/-- Words contain no separators. -/
theorem separates_wordsBy (found : word ∈ wordsBy separates text) :
    ∀ c ∈ word, separates c = false := by
  rw [wordsBy_eq_filter] at found
  exact separates_piece (List.mem_filter.mp found).1

theorem wordsBy_word (filled : word ≠ []) (inside : ∀ c ∈ word, separates c = false) :
    wordsBy separates word = [word] := by
  rw [wordsBy_eq_filter, List.splitOnP_eq_singleton inside]
  simp [filled]

theorem wordsBy_append_cons (outside : separates c = true) (front back : Text) :
    wordsBy separates (front ++ c :: back) = wordsBy separates front ++ wordsBy separates back := by
  rw [wordsBy_eq_filter, List.splitOnP_append_cons front back outside, List.filter_append,
    ← wordsBy_eq_filter, ← wordsBy_eq_filter]

theorem wordsBy_separator (outside : separates c = true) (text : Text) :
    wordsBy separates (c :: text) = wordsBy separates text :=
  wordsBy_append_cons outside [] text

theorem wordsBy_gap (outside : ∀ c ∈ gap, separates c = true) (text : Text) :
    wordsBy separates (gap ++ text) = wordsBy separates text := by
  induction gap with
  | nil => rfl
  | cons c gap ih =>
    obtain ⟨first, others⟩ := List.forall_mem_cons.mp outside
    rw [List.cons_append, wordsBy_separator first, ih others]

/-- `wordsBy` of texts with a nonempty separator between them is the concatenation. -/
theorem wordsBy_apart (filled : gap ≠ []) (outside : ∀ c ∈ gap, separates c = true)
    (front back : Text) : wordsBy separates (front ++ gap ++ back) =
      wordsBy separates front ++ wordsBy separates back := by
  obtain ⟨c, gap, rfl⟩ := List.exists_cons_of_ne_nil filled
  obtain ⟨first, others⟩ := List.forall_mem_cons.mp outside
  rw [List.append_assoc, List.cons_append, wordsBy_append_cons first, wordsBy_gap others]

/-- `wordsBy` commutes with maps that preserve the class. -/
theorem wordsBy_map {form : Char → Char} (same : ∀ c, separates (form c) = separates c)
    (text : Text) : wordsBy separates (text.map form) =
      (wordsBy separates text).map (List.map form) := by
  rw [wordsBy_eq_filter, wordsBy_eq_filter, splitOnP_map same, List.filter_map]
  congr 2
  funext piece
  exact congrArg (!·) List.isEmpty_map

end TypedCatalog.Text
