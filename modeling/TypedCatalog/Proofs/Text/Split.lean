import TypedCatalog.Proofs.Text.Clean

/-! `splitOn` and `join` as inverses, and cutting at the first occurrence of a character. -/
namespace TypedCatalog.Text

variable {separator : Char} {text piece : Text}

theorem splitOn_ne_nil (separator : Char) (text : Text) : splitOn separator text ≠ [] := by
  cases text with
  | nil => exact List.cons_ne_nil _ _
  | cons c rest =>
    unfold splitOn
    split
    · exact List.cons_ne_nil _ _
    · split
      · exact List.cons_ne_nil _ _
      · exact List.cons_ne_nil _ _

/-- A character other than the separator extends the first piece. -/
theorem splitOn_cons {c : Char} (other : c ≠ separator) (rest : Text) :
    ∃ first pieces, splitOn separator rest = first :: pieces ∧
      splitOn separator (c :: rest) = (c :: first) :: pieces := by
  obtain ⟨first, pieces, shape⟩ := List.exists_cons_of_ne_nil (splitOn_ne_nil separator rest)
  refine ⟨first, pieces, shape, ?_⟩
  rw [splitOn, if_neg other, shape]

theorem not_mem_splitOn (member : piece ∈ splitOn separator text) : separator ∉ piece := by
  induction text generalizing piece with
  | nil =>
    cases List.mem_singleton.mp member
    exact List.not_mem_nil
  | cons c rest ih =>
    by_cases same : c = separator
    · rw [splitOn, if_pos same] at member
      rcases List.mem_cons.mp member with rfl | member
      · exact List.not_mem_nil
      · exact ih member
    · obtain ⟨first, pieces, shape, split⟩ := splitOn_cons same rest
      rw [shape] at ih
      rw [split] at member
      rcases List.mem_cons.mp member with rfl | member
      · intro inside
        rcases List.mem_cons.mp inside with rfl | inside
        · exact same rfl
        · exact ih List.mem_cons_self inside
      · exact ih (List.mem_cons_of_mem _ member)

theorem mem_of_mem_splitOn {c : Char} (member : piece ∈ splitOn separator text)
    (inside : c ∈ piece) : c ∈ text := by
  induction text generalizing piece with
  | nil =>
    cases List.mem_singleton.mp member
    exact inside
  | cons d rest ih =>
    by_cases same : d = separator
    · rw [splitOn, if_pos same] at member
      rcases List.mem_cons.mp member with rfl | member
      · cases inside
      · exact List.mem_cons_of_mem _ (ih member inside)
    · obtain ⟨first, pieces, shape, split⟩ := splitOn_cons same rest
      rw [shape] at ih
      rw [split] at member
      rcases List.mem_cons.mp member with rfl | member
      · rcases List.mem_cons.mp inside with rfl | inside
        · exact List.mem_cons_self
        · exact List.mem_cons_of_mem _ (ih List.mem_cons_self inside)
      · exact List.mem_cons_of_mem _ (ih (List.mem_cons_of_mem _ member) inside)

theorem splitOn_append (free : separator ∉ piece) (rest : Text) :
    splitOn separator (piece ++ separator :: rest) = piece :: splitOn separator rest := by
  induction piece with
  | nil => rw [List.nil_append, splitOn, if_pos rfl]
  | cons c piece ih =>
    obtain ⟨other, free⟩ := List.ne_and_not_mem_of_not_mem_cons free
    rw [List.cons_append, splitOn, if_neg other.symm, ih free]

/-- `splitOn` yields one piece more than there are separators. -/
theorem length_splitOn (separator : Char) (text : Text) :
    (splitOn separator text).length = text.count separator + 1 := by
  induction text with
  | nil => rfl
  | cons c rest ih =>
    by_cases same : c = separator
    · rw [splitOn, if_pos same, List.length_cons, ih, same, List.count_cons_self]
    · obtain ⟨first, pieces, shape, split⟩ := splitOn_cons same rest
      rw [split, List.count_cons_of_ne same, ← ih, shape, List.length_cons, List.length_cons]

theorem splitOn_alone (free : separator ∉ text) : splitOn separator text = [text] := by
  induction text with
  | nil => rfl
  | cons c rest ih =>
    obtain ⟨other, free⟩ := List.ne_and_not_mem_of_not_mem_cons free
    rw [splitOn, if_neg other.symm, ih free]

/-- `splitOn` inverts `join` on pieces without the separator. -/
theorem splitOn_join {pieces : List Text} (free : ∀ piece ∈ pieces, separator ∉ piece)
    (nonempty : pieces ≠ []) : splitOn separator (join [separator] pieces) = pieces := by
  induction pieces with
  | nil => contradiction
  | cons first pieces ih =>
    obtain ⟨inside, free⟩ := List.forall_mem_cons.mp free
    cases pieces with
    | nil => exact splitOn_alone inside
    | cons second pieces =>
      rw [join_cons, List.singleton_append, splitOn_append inside, ih free (List.cons_ne_nil _ _)]

/-- The separators of a join: those of the pieces and those between them. -/
theorem count_join {pieces : List Text} (nonempty : pieces ≠ []) :
    (join [separator] pieces).count separator + 1 =
      pieces.flatten.count separator + pieces.length := by
  induction pieces with
  | nil => contradiction
  | cons first pieces ih =>
    cases pieces with
    | nil => simp [join]
    | cons second pieces =>
      have others := ih (List.cons_ne_nil _ _)
      rw [join_cons, List.count_append, List.count_append, List.count_singleton_self,
        List.flatten_cons, List.count_append, List.length_cons]
      omega

/-- If splitting yields as many pieces as were joined, no piece contains the separator. -/
theorem free_of_length {pieces : List Text} (nonempty : pieces ≠ [])
    (length : (splitOn separator (join [separator] pieces)).length = pieces.length) :
    ∀ piece ∈ pieces, separator ∉ piece := by
  rw [length_splitOn, count_join nonempty, Nat.add_eq_right, List.count_eq_zero] at length
  intro piece member inside
  exact length (List.mem_flatten_of_mem member inside)

theorem mem_join {c : Char} {between : Text} {pieces : List Text}
    (member : c ∈ join between pieces) : c ∈ between ∨ ∃ piece ∈ pieces, c ∈ piece := by
  induction pieces with
  | nil => cases member
  | cons first pieces ih =>
    cases pieces with
    | nil => exact .inr ⟨first, List.mem_cons_self, member⟩
    | cons second pieces =>
      rw [join_cons, List.mem_append, List.mem_append] at member
      rcases member with inside | inside | inside
      · exact .inr ⟨first, List.mem_cons_self, inside⟩
      · exact .inl inside
      · exact (ih inside).imp_right fun ⟨piece, held, inside⟩ =>
          ⟨piece, List.mem_cons_of_mem _ held, inside⟩

theorem join_cons_cons (first second : Text) (names : List Text) :
    join ['/'] (first :: second :: names) = first ++ '/' :: join ['/'] (second :: names) := by
  rw [join, List.append_assoc, List.singleton_append]
  exact List.cons_ne_nil _ _

/-- `splitOn` of pieces that each end with the separator. -/
theorem splitOn_flatMap {pieces : List Text} (free : ∀ piece ∈ pieces, separator ∉ piece) :
    splitOn separator (pieces.flatMap (· ++ [separator])) = pieces ++ [[]] := by
  induction pieces with
  | nil => rfl
  | cons first pieces ih =>
    obtain ⟨inside, free⟩ := List.forall_mem_cons.mp free
    rw [List.flatMap_cons, List.append_assoc, List.singleton_append, splitOn_append inside, ih free,
      List.cons_append]

theorem cut?_append (free : separator ∉ piece) (rest : Text) :
    cut? separator (piece ++ separator :: rest) = some (piece, rest) := by
  induction piece with
  | nil => rw [List.nil_append, cut?, if_pos rfl]
  | cons c piece ih =>
    obtain ⟨other, free⟩ := List.ne_and_not_mem_of_not_mem_cons free
    rw [List.cons_append, cut?, if_neg other.symm, ih free, Option.map_some]

theorem cut?_absent (absent : separator ∉ text) : cut? separator text = none := by
  induction text with
  | nil => rfl
  | cons c text ih =>
    obtain ⟨other, absent⟩ := List.ne_and_not_mem_of_not_mem_cons absent
    rw [cut?, if_neg other.symm, ih absent]
    rfl

theorem eq_of_cut? {before after : Text} (cut : cut? separator text = some (before, after)) :
    text = before ++ separator :: after := by
  induction text generalizing before with
  | nil => cases cut
  | cons c text ih =>
    rw [cut?] at cut
    split at cut
    · rename_i same
      obtain ⟨rfl, rfl⟩ := Prod.mk.inj (Option.some.inj cut)
      rw [same, List.nil_append]
    · obtain ⟨⟨first, last⟩, found, same⟩ := Option.map_eq_some_iff.mp cut
      obtain ⟨rfl, rfl⟩ := Prod.mk.inj same
      rw [ih found, List.cons_append]

theorem after?_append (start rest : Text) : after? start (start ++ rest) = some rest := by
  induction start with
  | nil => rfl
  | cons c start ih => rw [List.cons_append, after?, if_pos rfl, ih]

theorem eq_of_after? {start text rest : Text} (found : after? start text = some rest) :
    text = start ++ rest := by
  induction start generalizing text with
  | nil => exact Option.some.inj found
  | cons c start ih =>
    cases text with
    | nil => cases found
    | cons d text =>
      rw [after?] at found
      split at found
      · rename_i same
        rw [same, ih found, List.cons_append]
      · cases found

theorem before?_append (text ending : Text) : before? ending (text ++ ending) = some text := by
  rw [before?, List.reverse_append, after?_append, Option.map_some, List.reverse_reverse]

theorem eq_of_before? {ending text front : Text} (found : before? ending text = some front) :
    text = front ++ ending := by
  obtain ⟨rest, after, rfl⟩ := Option.map_eq_some_iff.mp found
  rw [← List.reverse_inj, eq_of_after? after, List.reverse_append, List.reverse_reverse]

end TypedCatalog.Text
