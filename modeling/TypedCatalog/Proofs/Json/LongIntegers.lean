import TypedCatalog.Proofs.Json.Documents

/-! Overlong integers in JSON text: `tooLong` is raised for a run of digits of the text, and raised
for every overlong run that starts it. -/
namespace TypedCatalog.Json

open Text (isDigit)

variable {α β : Type} {text rest whole : Text} {step : Step α} {fuel count : Nat}

/-- The text contains a run of `count` digits, more than the limit. -/
structure HasRun (count : Nat) (text : Text) : Prop where
  long : Number.digitLimit < count
  run : ∃ digits, digits <:+: text ∧ digits.length = count ∧ ∀ c ∈ digits, isDigit c = true

theorem HasRun.mono (has : HasRun count text) (part : text <:+: whole) : HasRun count whole := by
  obtain ⟨long, digits, inside, length, all⟩ := has
  exact ⟨long, digits, inside.trans part, length, all⟩

/-- A reader returns a suffix of the text, or stops at a problem or at a run of it. -/
inductive EndsIn {α : Type} (text : Text) : Step α → Prop where
  | ok {value : α} {rest : Text} : rest <:+ text → EndsIn text (.ok (value, rest))
  | problem (problem : Problem) (left : Nat) : EndsIn text (.error (.problem problem left))
  | tooLong {count : Nat} : HasRun count text → EndsIn text (.error (.tooLong count))

namespace EndsIn

theorem mono (ends : EndsIn text step) (part : text <:+ whole) : EndsIn whole step := by
  cases ends with
  | ok suffix => exact .ok (suffix.trans part)
  | problem problem left => exact .problem problem left
  | tooLong has => exact .tooLong (has.mono part.isInfix)

/-- Failures on a suffix are failures on the text. -/
theorem error {stop : Stop} (ends : EndsIn text step) (failed : step = .error stop) :
    EndsIn text (.error stop : Step β) := by
  cases ends with
  | ok suffix => cases failed
  | problem problem left =>
    cases failed
    exact .problem problem left
  | tooLong has =>
    cases failed
    exact .tooLong has

theorem suffix {value : α} (ends : EndsIn text step) (done : step = .ok (value, rest)) :
    rest <:+ text := by
  cases ends with
  | ok suffix =>
    cases done
    exact suffix
  | problem problem left => cases done
  | tooLong has => cases done

end EndsIn

theorem readUnits_error {opened : Nat} {stop : Stop}
    (failed : readUnits opened text = .error stop) : ∃ problem left, stop = .problem problem left := by
  fun_induction readUnits opened text <;> grind

theorem endsIn_readText (text : Text) : EndsIn text (readText text) := by
  cases done : readText text with
  | ok found =>
    obtain ⟨front, units, rfl, -, -⟩ := readText_ok done
    exact .ok ((List.suffix_cons _ _).trans (List.suffix_append front _))
  | error stop =>
    unfold readText at done
    split at done
    · rename_i failed
      cases done
      obtain ⟨problem, left, rfl⟩ := readUnits_error failed
      exact .problem problem left
    · cases done

theorem endsIn_readMagnitude (start : Nat) (negative : Bool) (text : Text) :
    EndsIn text (readMagnitude start negative text) := by
  have digits := isDigit_takeWhole text
  have parts := takeWhole_append text
  have fraction := takeFraction_suffix (takeWhole text).2
  have exponent := takeExponent_suffix (takeFraction (takeWhole text).2).2
  unfold readMagnitude
  split
  · exact .problem _ _
  · rename_i whole left _ found
    rw [found] at digits parts fraction exponent
    have behind := (exponent.trans fraction).trans (parts ▸ List.suffix_append whole left)
    dsimp only
    split
    · split
      · rename_i long
        exact .tooLong ⟨long, whole, parts ▸ (List.prefix_append whole left).isInfix, rfl, digits⟩
      · exact .ok behind
    · exact .ok behind

theorem endsIn_readScalar (text : Text) : EndsIn text (readScalar text) := by
  unfold readScalar
  split
  · rename_i found word
    obtain ⟨name, -, rfl⟩ := readWord?_ok word
    exact .ok (List.suffix_append name _)
  · split
    · exact (endsIn_readMagnitude _ _ _).mono (List.suffix_cons _ _)
    · exact endsIn_readMagnitude _ _ _

theorem skipSpace_suffix (text : Text) : skipSpace text <:+ text := List.dropWhile_suffix isSpace

/-- The rest after a token and the white space before it is a suffix. -/
theorem suffix_behind {c : Char} {left more : Text} (shape : skipSpace left = c :: more) :
    more <:+ left := (List.suffix_cons c more).trans (shape ▸ skipSpace_suffix left)

/-- `EndsIn` for all readers with this fuel. -/
structure EndsInside (fuel : Nat) : Prop where
  values : ∀ text, EndsIn text (readValue fuel text)
  items : ∀ text, EndsIn text (readItems fuel text)
  entries : ∀ text, EndsIn text (readEntries fuel text)

namespace EndsInside

theorem value_succ (inside : EndsInside fuel) (text : Text) :
    EndsIn text (readValue (fuel + 1) text) := by
  rw [readValue.eq_def]
  dsimp only
  split
  · rename_i opened
    have name := endsIn_readText opened
    split
    · rename_i failed
      exact (name.error failed).mono (List.suffix_cons _ _)
    · rename_i done
      exact .ok ((name.suffix done).trans (List.suffix_cons _ _))
  · rename_i opened
    have whole := (skipSpace_suffix opened).trans (List.suffix_cons '[' opened)
    split
    · rename_i closed
      exact .ok ((suffix_behind closed).trans (List.suffix_cons _ _))
    · have items := inside.items (skipSpace opened)
      split
      · rename_i failed
        exact (items.error failed).mono whole
      · rename_i done
        exact .ok ((items.suffix done).trans whole)
  · rename_i opened
    have whole := (skipSpace_suffix opened).trans (List.suffix_cons '\x7b' opened)
    split
    · rename_i closed
      exact .ok ((suffix_behind closed).trans (List.suffix_cons _ _))
    · have entries := inside.entries (skipSpace opened)
      split
      · rename_i failed
        exact (entries.error failed).mono whole
      · rename_i done
        exact .ok ((entries.suffix done).trans whole)
  · exact endsIn_readScalar text

theorem items_succ (inside : EndsInside fuel) (text : Text) :
    EndsIn text (readItems (fuel + 1) text) := by
  have first := inside.values text
  rw [readItems]
  split
  · rename_i failed
    exact first.error failed
  · rename_i item left done
    have behind := first.suffix done
    split
    · rename_i closed
      exact .ok ((suffix_behind closed).trans behind)
    · rename_i more comma
      have whole := ((skipSpace_suffix more).trans (suffix_behind comma)).trans behind
      have others := inside.items (skipSpace more)
      split
      · rename_i failed
        exact (others.error failed).mono whole
      · rename_i done
        exact .ok ((others.suffix done).trans whole)
    · exact .problem _ _

theorem entries_succ (inside : EndsInside fuel) (text : Text) :
    EndsIn text (readEntries (fuel + 1) text) := by
  rw [readEntries.eq_def]
  dsimp only
  split
  · rename_i opened
    have name := endsIn_readText opened
    split
    · rename_i failed
      exact (name.error failed).mono (List.suffix_cons _ _)
    · rename_i left done
      have named := (name.suffix done).trans (List.suffix_cons '"' opened)
      split
      · rename_i more colon
        have value := inside.values (skipSpace more)
        have start := ((skipSpace_suffix more).trans (suffix_behind colon)).trans named
        split
        · rename_i failed
          exact (value.error failed).mono start
        · rename_i left done
          have behind := (value.suffix done).trans start
          split
          · rename_i closed
            exact .ok ((suffix_behind closed).trans behind)
          · rename_i more comma
            have whole := ((skipSpace_suffix more).trans (suffix_behind comma)).trans behind
            have others := inside.entries (skipSpace more)
            split
            · rename_i failed
              exact (others.error failed).mono whole
            · rename_i done
              exact .ok ((others.suffix done).trans whole)
          · exact .problem _ _
      · exact .problem _ _
  · exact .problem _ _

theorem all (fuel : Nat) : EndsInside fuel := by
  induction fuel with
  | zero =>
    constructor
    · exact fun _ => .problem _ _
    · exact fun _ => .problem _ _
    · exact fun _ => .problem _ _
  | succ fuel inside => exact ⟨inside.value_succ, inside.items_succ, inside.entries_succ⟩

end EndsInside

/-- `Json.read` raises `tooLong` for a run of digits that the text contains. -/
theorem hasRun_of_read (failed : Json.read text = .error (.tooLong count)) : HasRun count text := by
  have ends := ((EndsInside.all (2 * text.length + 1)).values (skipSpace text)).mono
    (skipSpace_suffix text)
  have stopped : readDocument text = .error (.tooLong count) := by
    unfold Json.read at failed
    split at failed
    · cases failed
    · cases failed
    · rename_i found
      cases failed
      exact found
  rw [readDocument.eq_def] at stopped
  split at stopped
  · cases stopped
  · split at stopped
    · rename_i failed
      cases stopped
      rw [failed] at ends
      cases ends with
      | tooLong has => exact has
    · split at stopped
      · cases stopped
      · cases stopped

theorem readMagnitude_long {digits : Text} (whole : IsWhole digits)
    (long : Number.digitLimit < digits.length) (start : Nat) (negative : Bool) :
    readMagnitude start negative digits = .error (.tooLong digits.length) := by
  have parts : takeWhole (digits ++ []) = (digits, []) :=
    takeWhole_eq whole fun c first => by cases first
  rw [List.append_nil] at parts
  obtain ⟨c, more, rfl⟩ := List.exists_cons_of_ne_nil whole.nonempty
  simp only [readMagnitude, parts, takeFraction, takeExponent, long, decide_true,
    Option.isNone_none, Bool.and_self, if_true]

/-- An overlong run of digits alone raises `tooLong`. -/
theorem read_digits {digits : Text} (whole : IsWhole digits)
    (long : Number.digitLimit < digits.length) :
    Json.read digits = .error (.tooLong digits.length) := by
  have magnitude := readMagnitude_long whole long digits.length false
  obtain ⟨c, more, rfl⟩ := List.exists_cons_of_ne_nil whole.nonempty
  have digit := whole.digits c List.mem_cons_self
  have minus : (c :: more).head? ≠ some '-' := fun same =>
    Text.ne_of_holds digit (by decide) (Option.some.inj same)
  have scalar : readScalar (c :: more) = .error (.tooLong (c :: more).length) := by
    rw [readScalar_unsigned (readWord?_digit digit more).1 minus, magnitude]
  have starts : startsScalar c = true := by rw [startsScalar, digit, Bool.true_or]
  have document : readDocument (c :: more) = .error (.tooLong (c :: more).length) := by
    rw [readDocument_scalar starts, scalar]
  rw [Json.read, document]

end TypedCatalog.Json
