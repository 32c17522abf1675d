import TypedCatalog.Json.Writer
import TypedCatalog.Json.Reader
import TypedCatalog.Proofs.Number.Shortest
import TypedCatalog.Proofs.Text.Digits

/-! Round trip of numbers: integers within the digit limit, and all doubles. -/
namespace TypedCatalog.Json

open Text Binary64

/-- The rest does not continue a number. -/
def EndsNumber (rest : Text) : Prop :=
  ∀ c, rest.head? = some c → isDigit c = false ∧ c ≠ '.' ∧ c ≠ 'e' ∧ c ≠ 'E'

/-- The grammar of whole parts: zero, or digits without a leading zero. -/
structure IsWhole (whole : Text) : Prop where
  nonempty : whole ≠ []
  digits : ∀ c ∈ whole, isDigit c = true
  zero : whole.head? = some '0' → whole = ['0']

theorem isDigit_zero : ∀ c ∈ (['0'] : Text), isDigit c = true := List.all_eq_true.mp rfl

theorem isWhole_zero : IsWhole ['0'] := ⟨by decide, isDigit_zero, fun _ => rfl⟩

theorem isWhole_ofNat (n : Nat) : IsWhole (ofNat n) := by
  refine ⟨ofNat_ne_nil n, isDigit_ofNat, ?_⟩
  intro first
  by_cases zero : n = 0
  · subst zero
    rfl
  · obtain ⟨c, rest, shape, other⟩ := ofNat_cons zero
    rw [shape, List.head?_cons] at first
    exact absurd (Option.some.inj first) other

variable {rest : Text}

theorem takeDigits_eq {digits : Text} (inside : ∀ c ∈ digits, isDigit c = true)
    (outside : ∀ c, rest.head? = some c → isDigit c = false) :
    takeDigits (digits ++ rest) = (digits, rest) := by
  obtain ⟨taken, left⟩ := span_run inside outside
  rw [takeDigits, taken, left]

theorem takeWhole_eq {whole : Text} (isWhole : IsWhole whole)
    (outside : ∀ c, rest.head? = some c → isDigit c = false) :
    takeWhole (whole ++ rest) = (whole, rest) := by
  obtain ⟨c, more, rfl⟩ := List.exists_cons_of_ne_nil isWhole.nonempty
  by_cases zero : c = '0'
  · subst zero
    obtain rfl := (List.cons.inj (isWhole.zero rfl)).2
    rfl
  · rw [← takeDigits_eq isWhole.digits outside]
    exact takeWhole.eq_2 _ fun _ same => zero (List.cons.inj same).1

theorem takeFraction_eq {fraction : Text} (nonempty : fraction ≠ [])
    (inside : ∀ c ∈ fraction, isDigit c = true)
    (outside : ∀ c, rest.head? = some c → isDigit c = false) :
    takeFraction ('.' :: (fraction ++ rest)) = (fraction, rest) := by
  obtain ⟨c, more, rfl⟩ := List.exists_cons_of_ne_nil nonempty
  simp only [takeFraction, takeDigits_eq inside outside]

theorem takeFraction_none (outside : rest.head? ≠ some '.') : takeFraction rest = ([], rest) :=
  takeFraction.eq_2 rest fun _ same => outside (by rw [same, List.head?_cons])

theorem takeExponent_none (outside : ∀ c, rest.head? = some c → c ≠ 'e' ∧ c ≠ 'E') :
    takeExponent rest = (none, rest) := by
  cases rest with
  | nil => rfl
  | cons c rest => simp [takeExponent, outside c rfl]

/-- The exponent mark with its sign. -/
def exponentMark (negative : Bool) : Text := if negative then "e-" else "e+"

theorem takeExponent_eq {digits : Text} (negative : Bool) (nonempty : digits ≠ [])
    (inside : ∀ c ∈ digits, isDigit c = true)
    (outside : ∀ c, rest.head? = some c → isDigit c = false) :
    takeExponent (exponentMark negative ++ (digits ++ rest)) =
      (some (Number.signed negative (numberOf digits)), rest) := by
  obtain ⟨c, more, rfl⟩ := List.exists_cons_of_ne_nil nonempty
  have found := takeDigits_eq inside outside
  have plus : Number.takeSign ('+' :: (c :: more ++ rest)) = (false, c :: more ++ rest) := rfl
  have minus : Number.takeSign ('-' :: (c :: more ++ rest)) = (true, c :: more ++ rest) := rfl
  cases negative with
  | false =>
    have shape : exponentMark false ++ (c :: more ++ rest) = 'e' :: '+' :: (c :: more ++ rest) := rfl
    rw [shape]
    simp only [takeExponent, plus, found, decide_true, Bool.true_or, if_true]
    rfl
  | true =>
    have shape : exponentMark true ++ (c :: more ++ rest) = 'e' :: '-' :: (c :: more ++ rest) := rfl
    rw [shape]
    simp only [takeExponent, minus, found, decide_true, Bool.true_or, if_true]
    rfl

theorem EndsNumber.digit (ends : EndsNumber rest) :
    ∀ c, rest.head? = some c → isDigit c = false := fun c first => (ends c first).1

theorem EndsNumber.point (ends : EndsNumber rest) : rest.head? ≠ some '.' :=
  fun first => (ends '.' first).2.1 rfl

theorem EndsNumber.mark (ends : EndsNumber rest) :
    ∀ c, rest.head? = some c → c ≠ 'e' ∧ c ≠ 'E' := fun c first => (ends c first).2.2

theorem readMagnitude_whole {whole : Text} (isWhole : IsWhole whole)
    (short : whole.length ≤ Number.digitLimit) (ends : EndsNumber rest) (start : Nat)
    (negative : Bool) :
    readMagnitude start negative (whole ++ rest) =
      .ok (.int (Number.signed negative (numberOf whole)), rest) := by
  obtain ⟨c, more, rfl⟩ := List.exists_cons_of_ne_nil isWhole.nonempty
  simp only [readMagnitude, takeWhole_eq isWhole ends.digit, takeFraction_none ends.point,
    takeExponent_none ends.mark, Nat.not_lt.mpr short, decide_true, Option.isNone_none,
    Bool.and_self, if_true, if_false]
  rfl

theorem readMagnitude_fraction {whole fraction : Text} (isWhole : IsWhole whole)
    (nonempty : fraction ≠ []) (inside : ∀ c ∈ fraction, isDigit c = true)
    (ends : EndsNumber rest) (start : Nat) (negative : Bool) :
    readMagnitude start negative (whole ++ '.' :: (fraction ++ rest)) =
      .ok (.float (.ofDecimal negative (numberOf (whole ++ fraction)) (0 - fraction.length)),
        rest) := by
  obtain ⟨c, more, rfl⟩ := List.exists_cons_of_ne_nil isWhole.nonempty
  have point : ∀ d, ('.' :: (fraction ++ rest)).head? = some d → isDigit d = false := by
    rintro d ⟨⟩
    rfl
  simp only [readMagnitude, takeWhole_eq isWhole point,
    takeFraction_eq nonempty inside ends.digit, takeExponent_none ends.mark, nonempty,
    decide_false, Bool.false_and, Bool.false_eq_true, if_false, Option.getD_none]
  rfl

theorem readMagnitude_exponent {whole fraction digits : Text} (isWhole : IsWhole whole)
    (inside : ∀ c ∈ fraction, isDigit c = true) (negativeExponent : Bool)
    (some_digits : digits ≠ []) (digits_inside : ∀ c ∈ digits, isDigit c = true)
    (ends : EndsNumber rest) (start : Nat) (negative : Bool) :
    readMagnitude start negative (whole ++ ((if fraction = [] then [] else '.' :: fraction) ++
      (exponentMark negativeExponent ++ (digits ++ rest)))) =
      .ok (.float (.ofDecimal negative (numberOf (whole ++ fraction))
        (Number.signed negativeExponent (numberOf digits) - fraction.length)), rest) := by
  obtain ⟨c, more, rfl⟩ := List.exists_cons_of_ne_nil isWhole.nonempty
  have exponent := takeExponent_eq negativeExponent some_digits digits_inside ends.digit
  have head : (exponentMark negativeExponent ++ (digits ++ rest)).head? = some 'e' := by
    cases negativeExponent <;> rfl
  generalize exponentMark negativeExponent ++ (digits ++ rest) = tail at *
  have mark : ∀ d, tail.head? = some d → isDigit d = false := by
    rw [head]
    rintro d ⟨⟩
    rfl
  by_cases empty : fraction = []
  · subst empty
    have point : tail.head? ≠ some '.' := by simp [head]
    simp only [readMagnitude, List.nil_append, if_true, takeWhole_eq isWhole mark,
      takeFraction_none point, exponent, Option.isNone_some, Bool.and_false, Bool.false_eq_true,
      if_false, Option.getD_some]
    rfl
  · have point : ∀ d, ('.' :: (fraction ++ tail)).head? = some d → isDigit d = false := by
      rintro d ⟨⟩
      rfl
    have shape : '.' :: fraction ++ tail = '.' :: (fraction ++ tail) := rfl
    rw [if_neg empty, shape]
    simp only [readMagnitude, takeWhole_eq isWhole point, takeFraction_eq empty inside mark,
      exponent, empty, decide_false, Bool.false_and, Bool.false_eq_true, if_false,
      Option.getD_some]
    rfl

/-- The first character is a digit. -/
def StartsWithDigit (text : Text) : Prop := ∃ c rest, text = c :: rest ∧ isDigit c = true

theorem IsWhole.starts {whole : Text} (isWhole : IsWhole whole) (more : Text) :
    StartsWithDigit (whole ++ more) := by
  obtain ⟨c, tail, rfl⟩ := List.exists_cons_of_ne_nil isWhole.nonempty
  exact ⟨c, tail ++ more, rfl, isWhole.digits c (by simp)⟩

/-- The unsigned text of a number with its value for both signs. -/
def ReadsAs (value : Bool → Value) (text : Text) : Prop :=
  ∀ start negative rest, EndsNumber rest →
    readMagnitude start negative (text ++ rest) = .ok (value negative, rest)

theorem isWhole_take {digits : Text} (isWhole : IsWhole digits) (other : digits ≠ ['0'])
    {count : Nat} (positive : 0 < count) : IsWhole (digits.take count) := by
  obtain ⟨c, more, rfl⟩ := List.exists_cons_of_ne_nil isWhole.nonempty
  obtain ⟨count, rfl⟩ := Nat.exists_eq_succ_of_ne_zero positive.ne'
  constructor
  · simp
  · intro d member
    exact isWhole.digits d (List.mem_of_mem_take member)
  · intro first
    exact absurd (isWhole.zero first) other

theorem numberOf_zero : numberOf ['0'] = 0 := rfl

theorem numberOf_zero_append (digits : Text) : numberOf (['0'] ++ digits) = numberOf digits := by
  rw [numberOf_append, numberOf_zero, Nat.mul_zero, Nat.zero_add]

/-- The double of decimal digits with a decimal point. -/
def pointed (digits : Text) (whole : Int) (negative : Bool) : Value :=
  .float (.ofDecimal negative (numberOf digits) (whole - digits.length))

theorem readsAs_between {digits : Text} (isWhole : IsWhole digits) (other : digits ≠ ['0'])
    {count : Nat} (short : count + 1 < digits.length) :
    ReadsAs (pointed digits (count + 1 : Nat))
      (digits.take (count + 1) ++ '.' :: digits.drop (count + 1)) := by
  intro start negative rest ends
  have first := isWhole_take isWhole other (Nat.succ_pos count)
  have some_left : digits.drop (count + 1) ≠ [] := by
    rw [Ne, List.drop_eq_nil_iff]
    omega
  have inside : ∀ c ∈ digits.drop (count + 1), isDigit c = true := by
    intro c member
    exact isWhole.digits c (List.mem_of_mem_drop member)
  have read := readMagnitude_fraction first some_left inside ends start negative
  have exponent : (0 : Int) - (digits.drop (count + 1)).length =
      (count + 1 : Nat) - digits.length := by
    rw [List.length_drop, Nat.cast_sub short.le]
    ring
  rw [List.take_append_drop, exponent] at read
  rw [List.append_assoc, List.cons_append]
  exact read

/-- Zeros between the digits and the point. -/
theorem readsAs_behind {digits : Text} (isWhole : IsWhole digits) (other : digits ≠ ['0'])
    {count : Nat} (long : ¬count + 1 < digits.length) :
    ReadsAs (pointed digits (count + 1 : Nat))
      (digits ++ List.replicate (count + 1 - digits.length) '0' ++ ['.', '0']) := by
  intro start negative rest ends
  let zeros := List.replicate (count + 1 - digits.length) '0'
  have first : IsWhole (digits ++ zeros) := by
    constructor
    · simp [isWhole.nonempty]
    · intro c member
      rcases List.mem_append.mp member with member | member
      · exact isWhole.digits c member
      · exact isDigit_zeros c member
    · obtain ⟨c, more, rfl⟩ := List.exists_cons_of_ne_nil isWhole.nonempty
      intro zero
      exact absurd (isWhole.zero zero) other
  have read : readMagnitude start negative (digits ++ zeros ++ '.' :: (['0'] ++ rest)) = _ :=
    readMagnitude_fraction first (by decide) isDigit_zero ends start negative
  have value : numberOf (digits ++ zeros ++ ['0']) =
      10 ^ (count + 1 - digits.length + 1) * numberOf digits := by
    rw [numberOf_append, numberOf_append, numberOf_zeros, numberOf_zero, List.length_replicate,
      List.length_singleton]
    ring
  have exponent : (0 : Int) - (['0'] : Text).length +
      (count + 1 - digits.length + 1 : Nat) = (count + 1 : Nat) - digits.length := by
    rw [List.length_singleton]
    omega
  rw [value, ofDecimal_mul_pow, exponent] at read
  rw [List.append_assoc]
  exact read

/-- Zeros between the point and the digits. -/
theorem readsAs_front {digits : Text} (isWhole : IsWhole digits) (count : Nat) :
    ReadsAs (pointed digits (.negSucc count))
      ('0' :: '.' :: List.replicate (count + 1) '0' ++ digits) := by
  intro start negative rest ends
  have some_left : List.replicate (count + 1) '0' ++ digits ≠ [] := by
    simp [isWhole.nonempty]
  have inside : ∀ c ∈ List.replicate (count + 1) '0' ++ digits, isDigit c = true := by
    intro c member
    rcases List.mem_append.mp member with member | member
    · exact isDigit_zeros c member
    · exact isWhole.digits c member
  have read := readMagnitude_fraction isWhole_zero some_left inside ends start negative
  have exponent : (0 : Int) - (List.replicate (count + 1) '0' ++ digits).length =
      Int.negSucc count - digits.length := by
    rw [List.length_append, List.length_replicate]
    omega
  rw [numberOf_zero_append, numberOf_append, numberOf_zeros, Nat.mul_zero,
    Nat.zero_add, exponent] at read
  exact read

theorem readsAs_positional {digits : Text} (isWhole : IsWhole digits) (other : digits ≠ ['0'])
    (whole : Int) : ReadsAs (pointed digits whole) (positional digits whole) := by
  match whole with
  | .ofNat 0 =>
    intro start negative rest ends
    have read := readMagnitude_fraction isWhole_zero isWhole.nonempty isWhole.digits ends start
      negative
    rw [numberOf_zero_append] at read
    exact read
  | .ofNat (count + 1) =>
    rw [positional.eq_2 _ _ (Nat.succ_ne_zero count)]
    split
    · rename_i short
      exact readsAs_between isWhole other short
    · rename_i long
      exact readsAs_behind isWhole other long
  | .negSucc count => exact readsAs_front isWhole count

theorem readsAs_scientific {digits : Text} (isWhole : IsWhole digits) (other : digits ≠ ['0'])
    (first : Int) :
    ReadsAs (pointed digits (first + 1)) (scientific digits first) := by
  intro start negative rest ends
  have leading := isWhole_take isWhole other Nat.one_pos
  have inside : ∀ c ∈ ofNatPadded 2 first.natAbs, isDigit c = true := by
    intro c member
    rcases List.mem_append.mp member with member | member
    · exact isDigit_zeros c member
    · exact isDigit_ofNat c member
  have value : Number.signed (first < 0) (numberOf (ofNatPadded 2 first.natAbs)) = first := by
    rw [ofNatPadded, numberOf_append, numberOf_zeros, numberOf_ofNat, Number.signed]
    simp only [decide_eq_true_eq]
    omega
  have others : ∀ c ∈ digits.drop 1, isDigit c = true := fun c member =>
    isWhole.digits c (List.mem_of_mem_drop member)
  have read := readMagnitude_exponent leading others (first < 0)
    (by simp [ofNatPadded, ofNat_ne_nil]) inside ends start negative
  have length : 0 < digits.length := List.length_pos_iff.mpr isWhole.nonempty
  have exponent : first - ((digits.drop 1).length : Int) = first + 1 - digits.length := by
    rw [List.length_drop, Nat.cast_sub length]
    push_cast
    ring
  have empty : digits.drop 1 = [] ↔ digits.length ≤ 1 := List.drop_eq_nil_iff
  rw [List.take_append_drop, value, exponent] at read
  simp only [empty, exponentMark, decide_eq_true_eq] at read
  simp only [scientific, List.append_assoc]
  exact read

theorem startsWithDigit_positional {digits : Text} (isWhole : IsWhole digits)
    (other : digits ≠ ['0']) (whole : Int) : StartsWithDigit (positional digits whole) := by
  match whole with
  | .ofNat 0 => exact isWhole_zero.starts ('.' :: digits)
  | .ofNat (count + 1) =>
    rw [positional.eq_2 _ _ (Nat.succ_ne_zero count)]
    split
    · exact (isWhole_take isWhole other (Nat.succ_pos count)).starts _
    · rw [List.append_assoc]
      exact isWhole.starts _
  | .negSucc count => exact isWhole_zero.starts ('.' :: (List.replicate (count + 1) '0' ++ digits))

theorem startsWithDigit_scientific {digits : Text} (isWhole : IsWhole digits)
    (other : digits ≠ ['0']) (first : Int) : StartsWithDigit (scientific digits first) := by
  simp only [scientific, List.append_assoc]
  exact (isWhole_take isWhole other Nat.one_pos).starts _

theorem readsAs_magnitude {units : Nat} (double : IsMagnitude units) :
    ReadsAs (fun negative => .float (.finite negative units)) (magnitude named units) ∧
      StartsWithDigit (magnitude named units) := by
  by_cases zero : units = 0
  · subst zero
    constructor
    · intro start negative rest ends
      exact readMagnitude_fraction isWhole_zero (by decide) isDigit_zero ends start negative
    · exact isWhole_zero.starts ".0"
  have reads := ofDecimal_shortest double zero
  simp only [magnitude, zero, if_false]
  generalize shortest units = decimal at *
  obtain ⟨number, last⟩ := decimal
  have positive : number ≠ 0 := by
    rintro rfl
    have atZero : ofDecimal false 0 last = finite false 0 := by
      simp only [ofDecimal, decide_true, Bool.true_or, if_true]
    exact zero (Binary64.finite.inj ((reads false).symm.trans atZero)).2
  have other : ofNat number ≠ ['0'] := by
    intro same
    have value := numberOf_ofNat number
    rw [same] at value
    exact positive value.symm
  have exponent : last + (ofNat number).length - 1 + 1 - (ofNat number).length = last := by omega
  split
  · have positional := readsAs_positional (isWhole_ofNat number) other
      (last + (ofNat number).length - 1 + 1)
    unfold pointed at positional
    simp only [exponent, numberOf_ofNat, reads] at positional
    exact ⟨positional, startsWithDigit_positional (isWhole_ofNat number) other _⟩
  · have scientific := readsAs_scientific (isWhole_ofNat number) other
      (last + (ofNat number).length - 1)
    unfold pointed at scientific
    simp only [exponent, numberOf_ofNat, reads] at scientific
    exact ⟨scientific, startsWithDigit_scientific (isWhole_ofNat number) other _⟩

/-- No constant starts with a digit, or with a minus and a digit. -/
theorem readWord?_digit {c : Char} (digit : isDigit c = true) (rest : Text) :
    readWord? (c :: rest) = none ∧ readWord? ('-' :: c :: rest) = none := by
  have found := digit_cases digit
  simp only [List.mem_cons, List.not_mem_nil, or_false] at found
  rcases found with rfl | rfl | rfl | rfl | rfl | rfl | rfl | rfl | rfl | rfl <;> exact ⟨rfl, rfl⟩

/-- `readScalar` of a signed number. -/
theorem readScalar_signed {value : Bool → Value} {text : Text} (reads : ReadsAs value text)
    (first : StartsWithDigit text) (negative : Bool)
    (ends : EndsNumber rest) :
    readScalar (sign negative ++ (text ++ rest)) = .ok (value negative, rest) := by
  obtain ⟨c, more, rfl, digit⟩ := first
  obtain ⟨plain, minus⟩ := readWord?_digit digit (more ++ rest)
  cases negative with
  | false =>
    have shape : sign false ++ (c :: more ++ rest) = c :: (more ++ rest) := rfl
    have notMinus : c ≠ '-' := ne_of_holds digit (by decide)
    have read := reads (c :: (more ++ rest)).length false rest ends
    rw [shape]
    simp only [readScalar, plain]
    split
    · rename_i same
      exact absurd (List.cons.inj same).1 notMinus
    · exact read
  | true =>
    have shape : sign true ++ (c :: more ++ rest) = '-' :: c :: (more ++ rest) := rfl
    rw [shape]
    simp only [readScalar, minus]
    exact reads _ true rest ends

theorem readScalar_int {n : Int} (short : (ofNat n.natAbs).length ≤ Number.digitLimit)
    (ends : EndsNumber rest) : readScalar (ofInt n ++ rest) = .ok (.int n, rest) := by
  have whole := isWhole_ofNat n.natAbs
  have reads : ReadsAs (fun negative => .int (Number.signed negative n.natAbs))
      (ofNat n.natAbs) := by
    intro start negative rest ends
    have read := readMagnitude_whole whole short ends start negative
    rwa [numberOf_ofNat] at read
  have first := whole.starts []
  rw [List.append_nil] at first
  cases n with
  | ofNat n => exact readScalar_signed reads first false ends
  | negSucc n => exact readScalar_signed reads first true ends

theorem readScalar_float {x : Binary64} (double : x.IsDouble) (ends : EndsNumber rest) :
    readScalar (x.write named ++ rest) = .ok (.float x, rest) := by
  cases x with
  | finite negative units =>
    obtain ⟨reads, first⟩ := readsAs_magnitude (double negative units rfl)
    rw [Binary64.write, List.append_assoc]
    exact readScalar_signed reads first negative ends
  | infinite negative => cases negative <;> rfl
  | undefined => rfl

end TypedCatalog.Json
