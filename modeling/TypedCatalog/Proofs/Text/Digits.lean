import Mathlib.Tactic.Ring
import TypedCatalog.Number.Reader

/-! Runs of decimal digits and their value. -/
namespace TypedCatalog.Text

/-- `span` splits at the end of a run of the class. -/
theorem span_run {holds : Char → Bool} {run rest : Text} (inside : ∀ c ∈ run, holds c = true)
    (outside : ∀ c, rest.head? = some c → holds c = false) :
    (run ++ rest).takeWhile holds = run ∧ (run ++ rest).dropWhile holds = rest := by
  rw [List.takeWhile_append_of_pos inside, List.dropWhile_append_of_pos inside]
  cases rest with
  | nil => simp
  | cons c rest => simp [outside c rfl]

/-- Characters that a test distinguishes are different. -/
theorem ne_of_holds {holds : Char → Bool} {c d : Char} (is : holds c = true)
    (isNot : holds d = false) : c ≠ d := by
  rintro rfl
  simp [is] at isNot

/-- The value of decimal digits. -/
def numberOf (digits : Text) : Nat := Number.ofDigits (digits.map fun c => c.toNat - 48)

theorem numberOf_eq (digits : Text) : numberOf digits = Nat.ofDigitChars 10 digits 0 := by
  rw [numberOf, Number.ofDigits, List.foldl_map, Nat.ofDigitChars_eq_foldl]
  rfl

@[simp] theorem numberOf_ofNat (n : Nat) : numberOf (ofNat n) = n := by
  rw [numberOf_eq, ofNat, Nat.ofDigitChars_ten_toDigits]

theorem numberOf_append (digits more : Text) :
    numberOf (digits ++ more) = 10 ^ more.length * numberOf digits + numberOf more := by
  simp only [numberOf_eq, Nat.ofDigitChars_append]
  exact Nat.ofDigitChars_eq_ofDigitChars_zero

@[simp] theorem numberOf_zeros (count : Nat) : numberOf (List.replicate count '0') = 0 := by
  simp [numberOf_eq]

theorem isDigit_eq (c : Char) : isDigit c = c.isDigit := by
  simp only [isDigit, Char.isDigit, Char.le_def, ge_iff_le]

theorem digit_cases {c : Char} (digit : isDigit c = true) :
    c ∈ ['0', '1', '2', '3', '4', '5', '6', '7', '8', '9'] := by
  simp only [isDigit, Bool.and_eq_true, decide_eq_true_eq, Char.le_def,
    UInt32.le_iff_toNat_le] at digit
  have codes : ∀ n ≤ 57, 48 ≤ n →
      Char.ofNat n ∈ ['0', '1', '2', '3', '4', '5', '6', '7', '8', '9'] := by decide
  have found := codes c.toNat digit.2 digit.1
  rwa [Char.ofNat_toNat] at found

theorem isDigit_ofNat {n : Nat} : ∀ c ∈ ofNat n, isDigit c = true := by
  intro c member
  rw [isDigit_eq]
  exact Nat.isDigit_of_mem_toDigits (by decide) (by decide) member

theorem isDigit_zeros {count : Nat} : ∀ c ∈ List.replicate count '0', isDigit c = true := by
  intro c member
  rw [List.eq_of_mem_replicate member]
  rfl

/-- `n` digits have a value below `10 ^ n`. -/
theorem numberOf_lt {digits : Text} (inside : ∀ c ∈ digits, isDigit c = true) :
    numberOf digits < 10 ^ digits.length := by
  induction digits with
  | nil => decide
  | cons c digits ih =>
    have bound := ih fun d member => inside d (by simp [member])
    have digit := inside c (by simp)
    have small : numberOf [c] ≤ 9 := by
      simp only [isDigit, Bool.and_eq_true, decide_eq_true_eq, Char.le_def,
        UInt32.le_iff_toNat_le] at digit
      have nine : ('9' : Char).val.toNat = 57 := rfl
      have code : c.toNat = c.val.toNat := rfl
      simp only [numberOf, Number.ofDigits, List.map_cons, List.map_nil, List.foldl_cons,
        List.foldl_nil]
      omega
    have split := numberOf_append [c] digits
    have scaled := Nat.mul_le_mul_left (10 ^ digits.length) small
    simp only [List.cons_append, List.nil_append] at split
    rw [split, List.length_cons, Nat.pow_succ]
    omega

/-- The first digit of a nonzero number is not zero. -/
theorem ofNat_cons {n : Nat} (nonzero : n ≠ 0) : ∃ c rest, ofNat n = c :: rest ∧ c ≠ '0' := by
  induction n using Nat.strongRecOn with
  | ind n ih =>
    by_cases small : n < 10
    · refine ⟨n.digitChar, [], Nat.toDigits_of_lt_base small, ?_⟩
      have digits : ∀ n < 10, n ≠ 0 → n.digitChar ≠ '0' := by decide
      exact digits n small nonzero
    · obtain ⟨c, rest, shape, first⟩ := ih (n / 10) (by omega) (by omega)
      refine ⟨c, rest ++ [(n % 10).digitChar], ?_, first⟩
      rw [ofNat] at shape ⊢
      rw [Nat.toDigits_of_base_le (by decide) (by omega), shape, List.cons_append]

theorem ofNat_ne_nil (n : Nat) : ofNat n ≠ [] := Nat.toDigits_ne_nil

end TypedCatalog.Text
