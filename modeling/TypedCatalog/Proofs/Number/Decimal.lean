import TypedCatalog.Proofs.Number.Rounding

/-! `Binary64.ofDecimal` depends on the value of a decimal only, and maps a decimal within the
rounding interval of a double to that double. -/
namespace TypedCatalog.Binary64

/-! A power of ten is `tick / scale` units, whichever sign its exponent has. -/

def tick : (exponent : Int) → Nat
  | .ofNat e => 10 ^ e * one
  | .negSucc _ => one

def scale : (exponent : Int) → Nat
  | .ofNat _ => 1
  | .negSucc e => 10 ^ (e + 1)

theorem scale_pos (exponent : Int) : 0 < scale exponent := by
  cases exponent with
  | ofNat e => exact Nat.one_pos
  | negSucc e => exact Nat.pow_pos (by decide)

/-- The tick of the next exponent is ten times as wide. -/
theorem tick_succ (exponent : Int) :
    tick (exponent + 1) * scale exponent = 10 * tick exponent * scale (exponent + 1) := by
  cases exponent with
  | ofNat e =>
    have next : Int.ofNat e + 1 = Int.ofNat (e + 1) := rfl
    simp only [next, tick, scale]
    ring
  | negSucc e =>
    cases e with
    | zero =>
      have next : Int.negSucc 0 + 1 = Int.ofNat 0 := rfl
      simp only [next, tick, scale]
      ring
    | succ e =>
      have next : Int.negSucc (e + 1) + 1 = Int.negSucc e := by omega
      simp only [next, tick, scale]
      ring

theorem ofDecimal_eq {digits : Nat} {exponent : Int} (nonzero : digits ≠ 0)
    (low : -330 ≤ exponent + (Nat.toDigits 10 digits).length)
    (high : exponent + (Nat.toDigits 10 digits).length ≤ 320) (negative : Bool) :
    ofDecimal negative digits exponent =
      ofUnits negative (digits * tick exponent) (scale exponent) := by
  have large : ¬exponent + ((Nat.toDigits 10 digits).length : Int) < -330 := by omega
  have small : ¬(320 < exponent + ((Nat.toDigits 10 digits).length : Int)) := by omega
  simp only [ofDecimal, nonzero, large, small, decide_false, Bool.or_self, if_false,
    Bool.false_eq_true]
  cases exponent with
  | ofNat e =>
    rw [tick, ← Nat.mul_assoc]
    rfl
  | negSucc e => rfl

theorem roundDiv_scale {factor : Nat} (positive : 0 < factor) (num den : Nat) :
    roundDiv (factor * num) (factor * den) = roundDiv num den := by
  have twice : 2 * (factor * (num % den)) = factor * (2 * (num % den)) := by ring
  simp only [roundDiv, Nat.mul_div_mul_left num den positive, Nat.mul_mod_mul_left, twice,
    Nat.mul_lt_mul_left positive]

theorem ofUnits_scale {factor : Nat} (positive : 0 < factor) (negative : Bool) (num den : Nat) :
    ofUnits negative (factor * num) (factor * den) = ofUnits negative num den := by
  simp only [ofUnits, Nat.mul_div_mul_left num den positive, Nat.mul_assoc,
    roundDiv_scale positive]

theorem length_toDigits_mul_ten {digits : Nat} (nonzero : digits ≠ 0) :
    (Nat.toDigits 10 (10 * digits)).length = (Nat.toDigits 10 digits).length + 1 := by
  have split := Nat.toDigits_append_toDigits (show 1 < 10 by decide) (Nat.pos_of_ne_zero nonzero)
    (show 0 < 10 by decide)
  rw [Nat.add_zero] at split
  rw [← split]
  simp

/-- `ofDecimal` is invariant under moving a trailing zero into the exponent. -/
theorem ofDecimal_mul_ten (negative : Bool) (digits : Nat) (exponent : Int) :
    ofDecimal negative (10 * digits) exponent = ofDecimal negative digits (exponent + 1) := by
  by_cases zero : digits = 0
  · subst zero
    rfl
  have nonzero : 10 * digits ≠ 0 := by omega
  have length := length_toDigits_mul_ten zero
  have size : exponent + 1 + ((Nat.toDigits 10 digits).length : Int) =
      exponent + ((Nat.toDigits 10 (10 * digits)).length : Int) := by
    rw [length]
    push_cast
    ring
  by_cases low : exponent + ((Nat.toDigits 10 (10 * digits)).length : Int) < -330
  · simp only [ofDecimal, size, low, decide_true, Bool.or_true, if_true]
  by_cases high : 320 < exponent + ((Nat.toDigits 10 (10 * digits)).length : Int)
  · simp only [ofDecimal, size, low, high, zero, nonzero, decide_false, Bool.or_self, if_true,
      if_false, Bool.false_eq_true]
  · have num : scale (exponent + 1) * (10 * digits * tick exponent) =
        scale exponent * (digits * tick (exponent + 1)) := by
      calc
        _ = digits * (10 * tick exponent * scale (exponent + 1)) := by ring
        _ = digits * (tick (exponent + 1) * scale exponent) := by rw [tick_succ]
        _ = _ := by ring
    rw [ofDecimal_eq nonzero (by omega) (by omega), ofDecimal_eq zero (by omega) (by omega),
      ← ofUnits_scale (scale_pos (exponent + 1)) _ (10 * digits * tick exponent), num,
      Nat.mul_comm (scale (exponent + 1)), ofUnits_scale (scale_pos exponent)]

theorem ofDecimal_mul_pow (negative : Bool) (digits zeros : Nat) (exponent : Int) :
    ofDecimal negative (10 ^ zeros * digits) exponent =
      ofDecimal negative digits (exponent + zeros) := by
  induction zeros generalizing exponent with
  | zero => simp
  | succ zeros ih =>
    have first : 10 ^ (zeros + 1) * digits = 10 * (10 ^ zeros * digits) := by ring
    rw [first, ofDecimal_mul_ten, ih]
    congr 1
    push_cast
    ring

theorem Rounding.holds_iff (r : Rounding) (digits : Nat) (exponent : Int) :
    r.holds digits exponent = true ↔
      r.Within (digits * tick exponent) (scale exponent) := by
  cases exponent with
  | ofNat e =>
    have product : digits * Nat.pow 10 e * (4 * one) = 4 * (digits * (10 ^ e * one)) := by
      rw [Nat.pow_eq]
      ring
    simp only [Rounding.holds, Rounding.Within, tick, scale, product]
    split <;> simp
  | negSucc e =>
    have product : digits * (4 * one) = 4 * (digits * one) := by ring
    simp only [Rounding.holds, Rounding.Within, tick, scale, product, Nat.pow_eq]
    split <;> simp

theorem Rounding.Within.le {r : Rounding} {num den : Nat} (within : r.Within num den) :
    r.low * den ≤ 4 * num ∧ 4 * num ≤ r.high * den := by
  unfold Rounding.Within at within
  split at within
  · exact within
  · exact ⟨within.1.le, within.2.le⟩

theorem rounding_range {units : Nat} (magnitude : IsMagnitude units) (nonzero : units ≠ 0) :
    2 ≤ (rounding units).low ∧ (rounding units).high ≤ 6 * limit := by
  have step := Nat.le_of_dvd (Nat.pos_of_ne_zero nonzero) magnitude.onGrid
  have bound := magnitude.finite
  simp only [rounding]
  generalize limit = most at *
  generalize spacing units = step at *
  constructor
  · split <;> omega
  · omega

theorem lt_ten_pow_length (digits : Nat) : digits < 10 ^ (Nat.toDigits 10 digits).length :=
  (Nat.length_toDigits_le_iff (by decide) Nat.length_toDigits_pos).mp (Nat.le_refl _)

theorem ten_pow_length_le {digits : Nat} (nonzero : digits ≠ 0) :
    10 ^ ((Nat.toDigits 10 digits).length - 1) ≤ digits := by
  by_cases single : (Nat.toDigits 10 digits).length - 1 = 0
  · rw [single]
    omega
  · by_contra below
    have length := (Nat.length_toDigits_le_iff (by decide) (Nat.pos_of_ne_zero single)).mpr
      (Nat.lt_of_not_le below)
    omega

theorem least_double : 4 * one < 2 * 10 ^ 331 := by decide +kernel

theorem greatest_double : 6 * limit < 4 * (10 ^ 320 * one) := by decide +kernel

theorem lt_of_small {digits length down : Nat} (above : digits < 10 ^ length)
    (low : 2 * 10 ^ down ≤ 4 * (digits * one)) : down < length + 331 := by
  by_contra far
  have split : 10 ^ down = 10 ^ (down - length - 331) * (10 ^ length * 10 ^ 331) := by
    rw [← Nat.pow_add, ← Nat.pow_add]
    congr 1
    omega
  have grows : 10 ^ length * 10 ^ 331 ≤ 10 ^ down := by
    rw [split]
    exact Nat.le_mul_of_pos_left _ (Nat.pow_pos (by decide))
  have least := least_double
  generalize 10 ^ 331 = bound at *
  nlinarith

theorem lt_of_large {digits up down : Nat} (below : 10 ^ up ≤ digits)
    (high : 4 * (digits * one) ≤ 6 * limit * 10 ^ down) : up < down + 320 := by
  by_contra far
  have split : 10 ^ up = 10 ^ (up - down - 320) * (10 ^ down * 10 ^ 320) := by
    rw [← Nat.pow_add, ← Nat.pow_add]
    congr 1
    omega
  have grows : 10 ^ down * 10 ^ 320 ≤ 10 ^ up := by
    rw [split]
    exact Nat.le_mul_of_pos_left _ (Nat.pow_pos (by decide))
  have greatest := greatest_double
  have positive : 0 < 10 ^ down := Nat.pow_pos (by decide)
  generalize 10 ^ 320 = bound at *
  nlinarith

/-- A decimal within the interval of a double passes the range checks of `ofDecimal`. -/
theorem size_of_within {units digits : Nat} {exponent : Int} (magnitude : IsMagnitude units)
    (nonzero : units ≠ 0)
    (within : (rounding units).Within (digits * tick exponent) (scale exponent)) :
    digits ≠ 0 ∧ -330 ≤ exponent + (Nat.toDigits 10 digits).length ∧
      exponent + (Nat.toDigits 10 digits).length ≤ 320 := by
  obtain ⟨least, most⟩ := rounding_range magnitude nonzero
  obtain ⟨low, high⟩ := within.le
  have low := (Nat.mul_le_mul_right _ least).trans low
  have high := high.trans (Nat.mul_le_mul_right _ most)
  have some_digits : digits ≠ 0 := by
    rintro rfl
    have positive := scale_pos exponent
    rw [Nat.zero_mul] at low
    omega
  have above := lt_ten_pow_length digits
  have below := ten_pow_length_le some_digits
  have length_pos := Nat.length_toDigits_pos (b := 10) (n := digits)
  refine ⟨some_digits, ?_⟩
  generalize (Nat.toDigits 10 digits).length = length at *
  cases exponent with
  | ofNat e =>
    have shifted : 10 ^ (e + (length - 1)) ≤ digits * 10 ^ e := by
      rw [Nat.pow_add, Nat.mul_comm]
      exact Nat.mul_le_mul_right _ below
    have flat : 4 * (digits * 10 ^ e * one) ≤ 6 * limit * 10 ^ 0 := by
      rw [Nat.pow_zero, Nat.mul_assoc digits]
      exact high
    have top := lt_of_large shifted flat
    simp only [Int.ofNat_eq_natCast]
    omega
  | negSucc e =>
    have bottom := lt_of_small above low
    have top := lt_of_large below high
    omega

/-- `ofDecimal` of a decimal within the interval of a double is that double. -/
theorem ofDecimal_within {units digits : Nat} {exponent : Int} (magnitude : IsMagnitude units)
    (nonzero : units ≠ 0) (within : (rounding units).holds digits exponent = true)
    (negative : Bool) : ofDecimal negative digits exponent = finite negative units := by
  have within := (Rounding.holds_iff _ _ _).mp within
  obtain ⟨some_digits, low, high⟩ := size_of_within magnitude nonzero within
  rw [ofDecimal_eq some_digits low high]
  exact ofUnits_within magnitude within (scale_pos exponent) negative

end TypedCatalog.Binary64
