import TypedCatalog.Proofs.File.Change
import TypedCatalog.Proofs.Json.Number
import TypedCatalog.Proofs.Json.Readings

/-! `Json.read` is invariant under `joinLineEnds` where it succeeds, since line ends occur between
tokens only. -/
namespace TypedCatalog.Json

open FileTree (joinLineEnds joinLineEnds_cons joinLineEnds_single joinLineEnds_return
  joinLineEnds_append)
open Text

variable {fuel : Nat} {text rest : Text} {value : Value}

/-- `joinLineEnds` changes the first character to a line feed only. -/
theorem head?_joinLineEnds {c : Char} (first : (joinLineEnds text).head? = some c) :
    text.head? = some c ∨ c = '\n' := by
  cases text with
  | nil => cases first
  | cons d more =>
    by_cases same : d = '\r'
    · subst same
      obtain ⟨behind, shape⟩ := joinLineEnds_return more
      rw [shape] at first
      exact .inr (Option.some.inj first).symm
    · rw [joinLineEnds_cons same] at first
      exact .inl first

theorem head?_joinLineEnds_ne {c : Char} (feed : c ≠ '\n') (other : text.head? ≠ some c) :
    (joinLineEnds text).head? ≠ some c := fun first =>
  (head?_joinLineEnds first).elim other feed

theorem skipSpace_joinLineEnds (text : Text) :
    skipSpace (joinLineEnds text) = joinLineEnds (skipSpace text) := by
  induction text using FileTree.joinLineEnds.induct with
  | case1 rest ih => exact ih
  | case2 rest single ih =>
    rw [joinLineEnds_single single]
    exact ih
  | case3 c rest _ other ih =>
    rw [joinLineEnds_cons other]
    unfold skipSpace at ih ⊢
    by_cases blank : isSpace c = true
    · rw [List.dropWhile_cons_of_pos blank, List.dropWhile_cons_of_pos blank, ih]
    · rw [List.dropWhile_cons_of_neg blank, List.dropWhile_cons_of_neg blank,
        joinLineEnds_cons other]
  | case4 => rfl

theorem skipSpace_mark {left more : Text} {c : Char} (other : c ≠ '\r')
    (token : skipSpace left = c :: more) :
    skipSpace (joinLineEnds left) = c :: joinLineEnds more := by
  rw [skipSpace_joinLineEnds, token, joinLineEnds_cons other]

theorem readText_joinLineEnds {name : Text} (read : readText text = .ok (name, rest)) :
    readText (joinLineEnds text) = .ok (name, joinLineEnds rest) := by
  obtain ⟨front, units, rfl, literal, rfl⟩ := readText_ok read
  rw [joinLineEnds_append literal.clean, joinLineEnds_cons (by decide), literal.readText]

theorem takeDigits_joinLineEnds (text : Text) :
    takeDigits (joinLineEnds text) = ((takeDigits text).1, joinLineEnds (takeDigits text).2) := by
  have inside : ∀ c ∈ text.takeWhile isDigit, isDigit c = true :=
    List.all_eq_true.mp List.all_takeWhile
  have outside (c : Char) (first : (joinLineEnds (text.dropWhile isDigit)).head? = some c) :
      isDigit c = false := by
    rcases head?_joinLineEnds first with first | rfl
    · have stops := List.head?_dropWhile_not isDigit text
      rw [first] at stops
      exact stops
    · rfl
  have joined := takeDigits_eq inside outside
  rwa [← joinLineEnds_append (.of_class rfl inside), List.takeWhile_append_dropWhile] at joined

theorem takeSign_joinLineEnds (text : Text) : Number.takeSign (joinLineEnds text) =
    ((Number.takeSign text).1, joinLineEnds (Number.takeSign text).2) := by
  have unsigned {text : Text} (minus : text.head? ≠ some '-') (plus : text.head? ≠ some '+') :
      Number.takeSign text = (false, text) :=
    Number.takeSign.eq_3 text (fun _ same => minus (same ▸ rfl)) fun _ same => plus (same ▸ rfl)
  by_cases minus : text.head? = some '-'
  · obtain ⟨more, rfl⟩ := List.head?_eq_some_iff.mp minus
    rw [joinLineEnds_cons (by decide)]
    rfl
  · by_cases plus : text.head? = some '+'
    · obtain ⟨more, rfl⟩ := List.head?_eq_some_iff.mp plus
      rw [joinLineEnds_cons (by decide)]
      rfl
    · rw [unsigned minus plus, unsigned (head?_joinLineEnds_ne (by decide) minus)
        (head?_joinLineEnds_ne (by decide) plus)]

theorem takeWhole_joinLineEnds (text : Text) :
    takeWhole (joinLineEnds text) = ((takeWhole text).1, joinLineEnds (takeWhole text).2) := by
  have digits {text : Text} (other : text.head? ≠ some '0') : takeWhole text = takeDigits text :=
    takeWhole.eq_2 text fun _ same => other (same ▸ rfl)
  by_cases zero : text.head? = some '0'
  · obtain ⟨more, rfl⟩ := List.head?_eq_some_iff.mp zero
    rw [joinLineEnds_cons (by decide)]
    rfl
  · rw [digits zero, digits (head?_joinLineEnds_ne (by decide) zero), takeDigits_joinLineEnds]

theorem takeFraction_joinLineEnds (text : Text) : takeFraction (joinLineEnds text) =
    ((takeFraction text).1, joinLineEnds (takeFraction text).2) := by
  by_cases point : text.head? = some '.'
  · obtain ⟨more, rfl⟩ := List.head?_eq_some_iff.mp point
    have same : joinLineEnds ('.' :: more) = '.' :: joinLineEnds more :=
      joinLineEnds_cons (by decide) more
    rw [same]
    simp only [takeFraction, takeDigits_joinLineEnds]
    obtain ⟨digits, left⟩ := takeDigits more
    cases digits with
    | nil => rw [same]
    | cons c digits => rfl
  · rw [takeFraction_none point, takeFraction_none (head?_joinLineEnds_ne (by decide) point)]

theorem takeExponent_joinLineEnds (text : Text) : takeExponent (joinLineEnds text) =
    ((takeExponent text).1, joinLineEnds (takeExponent text).2) := by
  have unmarked {text : Text} (small : text.head? ≠ some 'e') (capital : text.head? ≠ some 'E') :
      takeExponent text = (none, text) := by
    apply takeExponent_none
    rintro c first
    exact ⟨fun same => small (same ▸ first), fun same => capital (same ▸ first)⟩
  have marked {c : Char} (mark : c = 'e' ∨ c = 'E') (more : Text) :
      takeExponent (joinLineEnds (c :: more)) =
        ((takeExponent (c :: more)).1, joinLineEnds (takeExponent (c :: more)).2) := by
    have other : c ≠ '\r' := by
      rintro rfl
      simp at mark
    have isMark : (decide (c = 'e') || decide (c = 'E')) = true := by simpa using mark
    have same := joinLineEnds_cons other more
    rw [same]
    simp only [takeExponent, isMark, if_true, takeSign_joinLineEnds, takeDigits_joinLineEnds]
    obtain ⟨digits, left⟩ := takeDigits (Number.takeSign more).2
    cases digits with
    | nil => rw [same]
    | cons c digits => rfl
  by_cases small : text.head? = some 'e'
  · obtain ⟨more, rfl⟩ := List.head?_eq_some_iff.mp small
    exact marked (.inl rfl) more
  · by_cases capital : text.head? = some 'E'
    · obtain ⟨more, rfl⟩ := List.head?_eq_some_iff.mp capital
      exact marked (.inr rfl) more
    · rw [unmarked small capital, unmarked (head?_joinLineEnds_ne (by decide) small)
        (head?_joinLineEnds_ne (by decide) capital)]

theorem readMagnitude_joinLineEnds {start other : Nat} {negative : Bool}
    (read : readMagnitude start negative text = .ok (value, rest)) :
    readMagnitude other negative (joinLineEnds text) = .ok (value, joinLineEnds rest) := by
  simp only [readMagnitude, takeWhole_joinLineEnds] at read ⊢
  generalize takeWhole text = found at read ⊢
  obtain ⟨whole, left⟩ := found
  cases whole with
  | nil => cases read
  | cons c whole =>
    simp only [takeFraction_joinLineEnds, takeExponent_joinLineEnds] at read ⊢
    split at read
    · rename_i integer
      split at read
      · cases read
      · rename_i short
        cases read
        rw [if_pos integer, if_neg short]
    · rename_i float
      cases read
      rw [if_neg float]

theorem after?_joinLineEnds {word : Text} (plain : '\r' ∉ word ∧ '\n' ∉ word) (text : Text) :
    after? word (joinLineEnds text) = (after? word text).map joinLineEnds := by
  induction word generalizing text with
  | nil => rfl
  | cons c word ih =>
    obtain ⟨carriage, clean⟩ := List.ne_and_not_mem_of_not_mem_cons plain.1
    obtain ⟨feed, free⟩ := List.ne_and_not_mem_of_not_mem_cons plain.2
    cases text with
    | nil => rfl
    | cons d more =>
      by_cases same : d = '\r'
      · subst same
        obtain ⟨behind, shape⟩ := joinLineEnds_return more
        rw [shape, after?, after?, if_neg feed.symm, if_neg carriage.symm, Option.map_none]
      · rw [joinLineEnds_cons same, after?, after?]
        split
        · exact ih ⟨clean, free⟩ more
        · rfl

theorem readWord?_joinLineEnds (text : Text) : readWord? (joinLineEnds text) =
    (readWord? text).map fun found => (found.1, joinLineEnds found.2) := by
  have plain : ∀ entry ∈ Json.words, '\r' ∉ entry.1 ∧ '\n' ∉ entry.1 := by decide
  unfold readWord?
  generalize Json.words = entries at plain ⊢
  induction entries with
  | nil => rfl
  | cons entry others ih =>
    obtain ⟨first, plain⟩ := List.forall_mem_cons.mp plain
    simp only [List.findSome?_cons, after?_joinLineEnds first]
    cases after? entry.1 text with
    | none => exact ih plain
    | some left => rfl

theorem readScalar_joinLineEnds (read : readScalar text = .ok (value, rest)) :
    readScalar (joinLineEnds text) = .ok (value, joinLineEnds rest) := by
  have word := readWord?_joinLineEnds text
  cases found : readWord? text with
  | some pair =>
    rw [readScalar_word found] at read
    cases read
    rw [found] at word
    exact readScalar_word word
  | none =>
    rw [found, Option.map_none] at word
    by_cases minus : text.head? = some '-'
    · obtain ⟨more, rfl⟩ := List.head?_eq_some_iff.mp minus
      rw [joinLineEnds_cons (by decide)] at word ⊢
      rw [readScalar_minus found] at read
      rw [readScalar_minus word]
      exact readMagnitude_joinLineEnds read
    · rw [readScalar_unsigned found minus] at read
      rw [readScalar_unsigned word (head?_joinLineEnds_ne (by decide) minus)]
      exact readMagnitude_joinLineEnds read

/-- The readers with this fuel commute with `joinLineEnds`. -/
structure ReadsJoined (fuel : Nat) : Prop where
  value : ∀ text value rest, readValue fuel text = .ok (value, rest) →
    readValue fuel (joinLineEnds text) = .ok (value, joinLineEnds rest)
  items : ∀ text items rest, readItems fuel text = .ok (items, rest) →
    readItems fuel (joinLineEnds text) = .ok (items, joinLineEnds rest)
  entries : ∀ text entries rest, readEntries fuel text = .ok (entries, rest) →
    readEntries fuel (joinLineEnds text) = .ok (entries, joinLineEnds rest)

namespace ReadsJoined

theorem readsValue (joined : ReadsJoined fuel) (reads : ReadsValue fuel text value rest) :
    ReadsValue fuel (joinLineEnds text) value (joinLineEnds rest) := by
  cases reads with
  | text found =>
    rw [joinLineEnds_cons (by decide)]
    exact .text (readText_joinLineEnds found)
  | noItems closed =>
    rw [joinLineEnds_cons (by decide)]
    exact .noItems (skipSpace_mark (by decide) closed)
  | items other found =>
    rw [joinLineEnds_cons (by decide)]
    apply ReadsValue.items
    · rw [skipSpace_joinLineEnds]
      exact head?_joinLineEnds_ne (by decide) other
    · rw [skipSpace_joinLineEnds]
      exact joined.items _ _ _ found
  | noEntries closed =>
    rw [joinLineEnds_cons (by decide)]
    exact .noEntries (skipSpace_mark (by decide) closed)
  | entries other found =>
    rw [joinLineEnds_cons (by decide)]
    apply ReadsValue.entries
    · rw [skipSpace_joinLineEnds]
      exact head?_joinLineEnds_ne (by decide) other
    · rw [skipSpace_joinLineEnds]
      exact joined.entries _ _ _ found
  | scalar other found =>
    have feed : ∀ c ∈ ['"', '[', '\x7b'], c ≠ '\n' := by simp
    exact .scalar (fun c member => head?_joinLineEnds_ne (feed c member) (other c member))
      (readScalar_joinLineEnds found)

theorem readsItems (joined : ReadsJoined fuel) {items : List Value}
    (reads : ReadsItems fuel text items rest) :
    ReadsItems fuel (joinLineEnds text) items (joinLineEnds rest) := by
  cases reads with
  | last first closed =>
    exact .last (joined.value _ _ _ first) (skipSpace_mark (by decide) closed)
  | more first comma others =>
    refine .more (joined.value _ _ _ first) (skipSpace_mark (by decide) comma) ?_
    rw [skipSpace_joinLineEnds]
    exact joined.items _ _ _ others

theorem readsEntry (joined : ReadsJoined fuel) {entry : Value × Value}
    (reads : ReadsEntry fuel text entry rest) :
    ReadsEntry fuel (joinLineEnds text) entry (joinLineEnds rest) := by
  cases reads with
  | named found colon first =>
    rw [joinLineEnds_cons (by decide)]
    refine .named (readText_joinLineEnds found) (skipSpace_mark (by decide) colon) ?_
    rw [skipSpace_joinLineEnds]
    exact joined.value _ _ _ first

theorem readsEntries (joined : ReadsJoined fuel) {entries : Value.Entries}
    (reads : ReadsEntries fuel text entries rest) :
    ReadsEntries fuel (joinLineEnds text) entries (joinLineEnds rest) := by
  cases reads with
  | last first closed =>
    exact .last (joined.readsEntry first) (skipSpace_mark (by decide) closed)
  | more first comma others =>
    refine .more (joined.readsEntry first) (skipSpace_mark (by decide) comma) ?_
    rw [skipSpace_joinLineEnds]
    exact joined.entries _ _ _ others

theorem all (fuel : Nat) : ReadsJoined fuel := by
  induction fuel with
  | zero => constructor <;> simp [readValue, readItems, readEntries]
  | succ fuel joined =>
    constructor
    · intro text value rest read
      exact readValue_iff.mpr (joined.readsValue (readValue_iff.mp read))
    · intro text items rest read
      exact readItems_iff.mpr (joined.readsItems (readItems_iff.mp read))
    · intro text entries rest read
      exact readEntries_iff.mpr (joined.readsEntries (readEntries_iff.mp read))

end ReadsJoined

/-- A text that decodes to a value decodes to it after `joinLineEnds`. -/
theorem read_joinLineEnds (read : Json.read text = .ok value) :
    Json.read (joinLineEnds text) = .ok value := by
  obtain ⟨mark, rest, first, all⟩ := read_iff.mp read
  refine read_iff.mpr ⟨head?_joinLineEnds_ne (by decide) mark, joinLineEnds rest, ?_, ?_⟩
  · have joined := (ReadsJoined.all _).value _ _ _ first
    rw [← skipSpace_joinLineEnds] at joined
    have inside := length_skipSpace_le (joinLineEnds text)
    exact ((IsSettled.all _).value _ _ _ joined).2 _ (by omega)
  · rw [skipSpace_joinLineEnds, all, joinLineEnds]

end TypedCatalog.Json
