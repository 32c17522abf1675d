import Mathlib.Data.List.DropRight
import TypedCatalog.Proofs.Text.Clean
import TypedCatalog.Proofs.Text.Runs

/-! Trimming and squeezing of white space, with equations for the first character of a text. -/
namespace TypedCatalog.Text

/-- White space only. -/
def IsGap (text : Text) : Prop := ∀ c ∈ text, isBlank c = true

variable {c : Char} {text gap word : Text}

/-- Neither the first nor the last character is white space. -/
structure IsTrimmed (text : Text) : Prop where
  front : text.dropWhile isBlank = text
  back : text.rdropWhile isBlank = text

theorem trim_eq (text : Text) : trim text = (text.dropWhile isBlank).rdropWhile isBlank := rfl

theorem isTrimmed_trim (text : Text) : IsTrimmed (trim text) := by
  constructor
  · rw [trim_eq]
    obtain ⟨rest, split⟩ := List.rdropWhile_prefix isBlank (text.dropWhile isBlank)
    have stops := List.head?_dropWhile_not isBlank text
    cases shape : (text.dropWhile isBlank).rdropWhile isBlank with
    | nil => rfl
    | cons first others =>
      rw [shape] at split
      rw [← split] at stops
      exact List.dropWhile_cons_of_neg (by simpa using stops)
  · exact List.rdropWhile_idempotent isBlank _

theorem trim_exists (text : Text) :
    ∃ front back, IsGap front ∧ IsGap back ∧ text = front ++ (trim text ++ back) := by
  refine ⟨text.takeWhile isBlank, (text.dropWhile isBlank).rtakeWhile isBlank, ?_, ?_, ?_⟩
  · intro c member
    exact List.mem_takeWhile_imp member
  · intro c member
    exact List.mem_rtakeWhile_imp member
  · rw [trim_eq, List.rdropWhile_append_rtakeWhile, List.takeWhile_append_dropWhile]

theorem length_trim_le (text : Text) : (trim text).length ≤ text.length := by
  obtain ⟨front, back, -, -, split⟩ := trim_exists text
  have lengths := congrArg List.length split
  simp only [List.length_append] at lengths
  omega

theorem rdropWhile_append_gap (text : Text) (blank : IsGap gap) :
    (text ++ gap).rdropWhile isBlank = text.rdropWhile isBlank := by
  have reversed : ∀ c ∈ gap.reverse, isBlank c = true := fun c member =>
    blank c (List.mem_reverse.mp member)
  simp only [List.rdropWhile, List.reverse_append, List.dropWhile_append_of_pos reversed]

namespace IsTrimmed

theorem trim (trimmed : IsTrimmed text) : Text.trim text = text := by
  rw [trim_eq, trimmed.front, trimmed.back]

theorem trim_front (trimmed : IsTrimmed text) (blank : IsGap gap) :
    Text.trim (gap ++ text) = text := by
  rw [trim_eq, List.dropWhile_append_of_pos blank, trimmed.front, trimmed.back]

/-- The first character of trimmed text is visible. -/
theorem head (trimmed : IsTrimmed (c :: text)) : isBlank c = false := by
  have stops := List.head?_dropWhile_not isBlank (c :: text)
  rw [trimmed.front] at stops
  exact stops

theorem trim_back (trimmed : IsTrimmed text) (blank : IsGap gap) :
    Text.trim (text ++ gap) = text := by
  cases text with
  | nil => rw [List.nil_append, ← List.append_nil gap, IsTrimmed.trim_front ⟨rfl, rfl⟩ blank]
  | cons c text =>
    have first : ¬isBlank c = true := by simp [trimmed.head]
    rw [trim_eq, List.cons_append, List.dropWhile_cons_of_neg first, ← List.cons_append,
      rdropWhile_append_gap _ blank, trimmed.back]

/-- Prepending a visible character to trimmed text preserves `IsTrimmed`. -/
theorem behind (trimmed : IsTrimmed text) (filled : text ≠ []) (visible : isBlank c = false)
    (front : Text) : IsTrimmed (c :: (front ++ text)) := by
  have first : ¬isBlank c = true := by simp [visible]
  refine ⟨List.dropWhile_cons_of_neg first, ?_⟩
  obtain ⟨last, init, rfl⟩ := List.exists_cons_of_ne_nil filled
  have ends := List.rdropWhile_eq_self_iff.mp trimmed.back (List.cons_ne_nil last init)
  refine List.rdropWhile_eq_self_iff.mpr fun more => ?_
  have same : (c :: (front ++ last :: init)).getLast more = (last :: init).getLast filled := by
    rw [List.getLast_cons (by simp), List.getLast_append_of_ne_nil]
  rwa [same]

end IsTrimmed

/-- After a visible character only the end is trimmed. -/
theorem trim_behind (visible : isBlank c = false) (front : Text)
    (starts : text.dropWhile isBlank = text) (filled : trim text ≠ []) :
    trim (c :: (front ++ text)) = c :: (front ++ trim text) := by
  have blank : IsGap (text.rtakeWhile isBlank) := fun c member => List.mem_rtakeWhile_imp member
  have split : text = trim text ++ text.rtakeWhile isBlank := by
    rw [trim_eq, starts, List.rdropWhile_append_rtakeWhile]
  have whole : c :: (front ++ text) = c :: (front ++ trim text) ++ text.rtakeWhile isBlank := by
    simp [← split]
  rw [whole, ((isTrimmed_trim text).behind filled visible front).trim_back blank]

theorem words_blank (blank : isBlank c = true) : words (c :: text) = words text :=
  wordsBy_separator blank text

/-- A visible character before white space is a word. -/
theorem words_alone (visible : isBlank c = false) (ends : ∀ d ∈ text.head?, isBlank d = true) :
    words (c :: text) = [c] :: words text := by
  cases text with
  | nil => simp [words, wordsBy, visible]
  | cons d text => simp [words, wordsBy, visible, ends d rfl]

theorem words_ne_nil (visible : isBlank c = false) : words (c :: text) ≠ [] := by
  obtain ⟨word, others, shape⟩ := wordsBy_cons visible text
  rw [words, shape]
  exact List.cons_ne_nil _ _

/-- A visible character before a visible one extends its word. -/
theorem words_joined {d : Char} (visible : isBlank c = false) (next : isBlank d = false) :
    ∃ word others, words (d :: text) = word :: others ∧
      words (c :: d :: text) = (c :: word) :: others := by
  obtain ⟨word, others, shape⟩ := List.exists_cons_of_ne_nil (@words_ne_nil d text next)
  refine ⟨word, others, shape, ?_⟩
  rw [words] at shape
  rw [words, wordsBy.eq_3, shape]
  simp [visible, next]

/-- The words of a text joined by single blanks. -/
def squeeze (text : Text) : Text := join [' '] (words text)

theorem squeeze_nil : squeeze [] = [] := rfl

theorem squeeze_blank (blank : isBlank c = true) : squeeze (c :: text) = squeeze text := by
  rw [squeeze, words_blank blank, squeeze]

/-- The blank that `squeeze` leaves between a word and the words of the following text. -/
def gapBefore : Text → Text
  | [] => []
  | c :: text => if isBlank c = true ∧ words (c :: text) ≠ [] then [' '] else []

theorem gapBefore_of_empty (empty : words text = []) : gapBefore text = [] := by
  cases text with
  | nil => rfl
  | cons c text => exact if_neg fun both => both.2 empty

theorem gapBefore_cases (text : Text) : gapBefore text = [] ∨ gapBefore text = [' '] := by
  cases text with
  | nil => exact .inl rfl
  | cons c text => exact (ite_eq_or_eq _ _ _).symm

theorem isGap_gapBefore (text : Text) : IsGap (gapBefore text) := by
  rcases gapBefore_cases text with gapless | blank
  · rw [gapless]
    exact List.forall_mem_nil _
  · rw [blank]
    exact List.forall_mem_singleton.mpr (by decide)

/-- If words follow, `gapBefore` depends on the first character only. -/
theorem gapBefore_append {more : Text} (filled : words text ≠ [])
    (filledToo : words (text ++ more) ≠ []) : gapBefore (text ++ more) = gapBefore text := by
  cases text with
  | nil => contradiction
  | cons c text =>
    exact if_congr ((and_iff_left filledToo).trans (and_iff_left filled).symm) rfl rfl

theorem squeeze_cons (visible : isBlank c = false) :
    squeeze (c :: text) = c :: (gapBefore text ++ squeeze text) := by
  cases text with
  | nil => simp [squeeze, words, wordsBy, visible, gapBefore, join]
  | cons d text =>
    cases next : isBlank d with
    | true =>
      rw [squeeze, words_alone visible (by simpa using next), squeeze]
      cases others : words (d :: text) with
      | nil => simp [gapBefore, others, join]
      | cons word others => simp [gapBefore, others, next, join]
    | false =>
      obtain ⟨word, others, shape, joined⟩ := @words_joined c text d visible next
      have close : gapBefore (d :: text) = [] := by simp [gapBefore, next]
      rw [close, squeeze, joined, join_cons_head, ← shape, List.nil_append, squeeze]

theorem squeeze_eq_nil_iff : squeeze text = [] ↔ words text = [] := by
  constructor
  · intro empty
    induction text with
    | nil => rfl
    | cons c text ih =>
      cases blank : isBlank c with
      | true => rw [words_blank blank, ih (squeeze_blank blank ▸ empty)]
      | false =>
        rw [squeeze_cons blank] at empty
        cases empty
  · intro nothing
    rw [squeeze, nothing]
    rfl

theorem isTrimmed_squeeze (text : Text) : IsTrimmed (squeeze text) := by
  induction text with
  | nil => exact ⟨rfl, rfl⟩
  | cons c text ih =>
    cases blank : isBlank c with
    | true => rwa [squeeze_blank blank]
    | false =>
      rw [squeeze_cons blank]
      by_cases filled : squeeze text = []
      · have close : gapBefore text = [] := gapBefore_of_empty (squeeze_eq_nil_iff.mp filled)
        rw [filled, close]
        exact ⟨by simp [blank], by simp [List.rdropWhile_singleton, blank]⟩
      · exact ih.behind filled blank _

theorem squeeze_gap_append (blank : IsGap gap) (text : Text) :
    squeeze (gap ++ text) = squeeze text := by
  induction gap with
  | nil => rfl
  | cons c gap ih =>
    obtain ⟨first, others⟩ := List.forall_mem_cons.mp blank
    rw [List.cons_append, squeeze_blank first, ih others]

theorem squeeze_append_gap (text : Text) (blank : IsGap gap) :
    squeeze (text ++ gap) = squeeze text := by
  have alone : squeeze gap = [] := by
    rw [← List.append_nil gap, squeeze_gap_append blank, squeeze_nil]
  induction text with
  | nil => exact alone
  | cons c text ih =>
    cases visible : isBlank c with
    | true => rw [List.cons_append, squeeze_blank visible, squeeze_blank visible, ih]
    | false =>
      have words : words (text ++ gap) = [] ↔ words text = [] := by
        rw [← squeeze_eq_nil_iff, ← squeeze_eq_nil_iff, ih]
      have same : gapBefore (text ++ gap) = gapBefore text := by
        by_cases empty : Text.words text = []
        · rw [gapBefore_of_empty (words.mpr empty), gapBefore_of_empty empty]
        · exact gapBefore_append empty (words.not.mpr empty)
      rw [List.cons_append, squeeze_cons visible, squeeze_cons visible, same, ih]

theorem squeeze_word (visible : ∀ c ∈ word, isBlank c = false) : squeeze word = word := by
  induction word with
  | nil => rfl
  | cons c word ih =>
    obtain ⟨first, others⟩ := List.forall_mem_cons.mp visible
    have close : gapBefore word = [] := by
      cases word with
      | nil => rfl
      | cons d word => simp [gapBefore, others d List.mem_cons_self]
    rw [squeeze_cons first, close, ih others, List.nil_append]

/-- Appending a word extends the last word, or adds one after a blank. -/
theorem squeeze_append_word (text : Text) (visible : ∀ c ∈ word, isBlank c = false)
    (filled : word ≠ []) : ∃ gap, (gap = [] ∨ gap = [' '] ∧ words text ≠ []) ∧
      squeeze (text ++ word) = squeeze text ++ (gap ++ word) := by
  induction text with
  | nil => exact ⟨[], .inl rfl, squeeze_word visible⟩
  | cons c text ih =>
    obtain ⟨gap, small, split⟩ := ih
    cases blank : isBlank c with
    | true =>
      refine ⟨gap, ?_, ?_⟩
      · rwa [words_blank blank]
      · rw [List.cons_append, squeeze_blank blank, squeeze_blank blank, split]
    | false =>
      rw [List.cons_append, squeeze_cons blank, squeeze_cons blank, split]
      by_cases empty : words text = []
      · obtain rfl : gap = [] := small.resolve_right fun both => both.2 empty
        refine ⟨gapBefore (text ++ word), ?_, ?_⟩
        · exact (gapBefore_cases _).imp_right fun one => ⟨one, words_ne_nil blank⟩
        · simp [squeeze_eq_nil_iff.mpr empty, gapBefore_of_empty empty]
      · have words : words (text ++ word) ≠ [] := by
          rw [Ne, ← squeeze_eq_nil_iff, split]
          simp [filled]
        refine ⟨gap, small.imp_right fun both => ⟨both.1, words_ne_nil blank⟩, ?_⟩
        simp [gapBefore_append empty words]

/-- Words joined by single blanks, with none at the ends. -/
structure IsSqueezed (text : Text) : Prop where
  trimmed : IsTrimmed text
  blanks : ∀ c ∈ text, isBlank c = true → c = ' '
  single : ¬ [' ', ' '] <:+: text

theorem blanks_squeeze (text : Text) : ∀ c ∈ squeeze text, isBlank c = true → c = ' ' := by
  induction text with
  | nil => exact List.forall_mem_nil _
  | cons d text ih =>
    cases blank : isBlank d with
    | true => rwa [squeeze_blank blank]
    | false =>
      rw [squeeze_cons blank, List.forall_mem_cons, List.forall_mem_append]
      refine ⟨fun other => ?_, ?_, ih⟩
      · rw [blank] at other
        contradiction
      · rcases gapBefore_cases text with gapless | one
        · rw [gapless]
          exact List.forall_mem_nil _
        · rw [one, List.forall_mem_singleton]
          exact fun _ => rfl

theorem single_squeeze (text : Text) : ¬ [' ', ' '] <:+: squeeze text := by
  induction text with
  | nil => simp [squeeze_nil]
  | cons d text ih =>
    cases blank : isBlank d with
    | true => rwa [squeeze_blank blank]
    | false =>
      have other : ' ' ≠ d := by
        rintro rfl
        contradiction
      have first : ¬ [' '] <+: squeeze text := by
        rintro ⟨rest, shape⟩
        have trimmed := isTrimmed_squeeze text
        rw [← shape] at trimmed
        exact absurd trimmed.head (by decide)
      rw [squeeze_cons blank, List.infix_cons_iff, not_or]
      refine ⟨fun front => other (List.cons_prefix_cons.mp front).1, ?_⟩
      rcases gapBefore_cases text with gapless | one
      · rwa [gapless]
      · rw [one, List.singleton_append, List.infix_cons_iff, not_or]
        exact ⟨fun front => first (List.cons_prefix_cons.mp front).2, ih⟩

theorem isSqueezed_squeeze (text : Text) : IsSqueezed (squeeze text) :=
  ⟨isTrimmed_squeeze text, blanks_squeeze text, single_squeeze text⟩

/-- A text with a visible end has one after its first character. -/
theorem rdropWhile_tail (ends : (c :: text).rdropWhile isBlank = c :: text) :
    text.rdropWhile isBlank = text := by
  refine List.rdropWhile_eq_self_iff.mpr fun filled => ?_
  have last := List.rdropWhile_eq_self_iff.mp ends (List.cons_ne_nil c text)
  rwa [List.getLast_cons filled] at last

/-- `squeeze` and `gapBefore` are the identity on text with single blanks and none at the end. -/
theorem gapBefore_append_squeeze (ends : text.rdropWhile isBlank = text)
    (blanks : ∀ c ∈ text, isBlank c = true → c = ' ') (single : ¬ [' ', ' '] <:+: text) :
    gapBefore text ++ squeeze text = text := by
  induction text with
  | nil => rfl
  | cons c text ih =>
    obtain ⟨first, others⟩ := List.forall_mem_cons.mp blanks
    rw [List.infix_cons_iff, not_or] at single
    have rest := ih (rdropWhile_tail ends) others single.2
    cases blank : isBlank c with
    | false =>
      have close : gapBefore (c :: text) = [] := if_neg fun both => by simp [blank] at both
      rw [close, squeeze_cons blank, rest, List.nil_append]
    | true =>
      obtain rfl := first blank
      cases text with
      | nil => simp [List.rdropWhile_singleton, blank] at ends
      | cons d text =>
        -- A second blank would follow the first, so that a word starts here.
        have visible : isBlank d = false := by
          by_contra white
          rw [Bool.not_eq_false] at white
          apply single.1
          simp [others d List.mem_cons_self white]
        have filled : words (' ' :: d :: text) ≠ [] := by
          rw [words_blank blank]
          exact words_ne_nil visible
        have close : gapBefore (d :: text) = [] := if_neg fun both => by simp [visible] at both
        have lead : gapBefore (' ' :: d :: text) = [' '] := if_pos ⟨blank, filled⟩
        rw [close, List.nil_append] at rest
        rw [lead, squeeze_blank blank, rest, List.singleton_append]

theorem IsSqueezed.squeeze (squeezed : IsSqueezed text) : Text.squeeze text = text := by
  have whole := gapBefore_append_squeeze squeezed.trimmed.back squeezed.blanks squeezed.single
  have close : gapBefore text = [] := by
    cases text with
    | nil => rfl
    | cons c text => exact if_neg fun both => by simp [squeezed.trimmed.head] at both
  rwa [close, List.nil_append] at whole

/-- `squeeze` preserves the visible characters in order. -/
theorem filter_squeeze (text : Text) :
    (Text.squeeze text).filter (!isBlank ·) = text.filter (!isBlank ·) := by
  induction text with
  | nil => rfl
  | cons c text ih =>
    cases blank : isBlank c with
    | true => simp [squeeze_blank blank, blank, ih]
    | false =>
      have gap : (gapBefore text).filter (!isBlank ·) = [] := by
        simpa [IsGap] using isGap_gapBefore text
      simp [squeeze_cons blank, blank, gap, ih]

theorem mem_squeeze (member : c ∈ squeeze text) : c = ' ' ∨ c ∈ text := by
  cases blank : isBlank c with
  | true => exact .inl (blanks_squeeze text c member blank)
  | false =>
    have visible : c ∈ (squeeze text).filter (!isBlank ·) := by simp [member, blank]
    rw [filter_squeeze] at visible
    exact .inr (List.mem_of_mem_filter visible)

end TypedCatalog.Text
