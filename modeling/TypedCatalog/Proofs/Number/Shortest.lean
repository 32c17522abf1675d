import TypedCatalog.Proofs.Number.Decimal

/-! The shortest decimal of a double reads back as that double; the search for it succeeds within
seventeen digits. -/
namespace TypedCatalog.Binary64

theorem one_le_ten_pow : one ≤ 10 ^ 331 := by decide +kernel

theorem one_pos : 0 < one := by decide +kernel

theorem leadingExponent.tick_search {units : Nat} (nonzero : units ≠ 0) {fuel exponent : Nat}
    (total : fuel + exponent = 331) (positive : 0 < exponent) :
    tick (search units fuel (10 ^ exponent) exponent) ≤
      units * scale (search units fuel (10 ^ exponent) exponent) := by
  have negative : -(exponent : Int) = Int.negSucc (exponent - 1) := by omega
  induction fuel generalizing exponent with
  | zero =>
    have last : exponent - 1 + 1 = 331 := by omega
    rw [search, negative, tick, scale, last]
    exact one_le_ten_pow.trans (Nat.le_mul_of_pos_left _ (Nat.pos_of_ne_zero nonzero))
  | succ fuel ih =>
    rw [search]
    split
    · rename_i found
      rw [negative, tick, scale, Nat.sub_add_cancel positive]
      exact found
    · rw [← Nat.pow_succ]
      exact ih (by omega) (by omega) (by omega)

theorem leadingExponent_of_large {units : Nat} (large : one ≤ units) :
    leadingExponent units = Int.ofNat ((Nat.toDigits 10 (units / one)).length - 1) := by
  have positive := Nat.length_toDigits_pos (b := 10) (n := units / one)
  simp only [leadingExponent, large, if_true, Int.ofNat_eq_natCast]
  omega

theorem tick_leadingExponent {units : Nat} (nonzero : units ≠ 0) :
    tick (leadingExponent units) ≤ units * scale (leadingExponent units) := by
  rcases Nat.lt_or_ge units one with small | large
  · have searched : leadingExponent units = leadingExponent.search units 330 (10 ^ 1) 1 := by
      simp only [leadingExponent, Nat.not_le.mpr small, if_false, Nat.pow_one]
    rw [searched]
    exact leadingExponent.tick_search nonzero rfl Nat.one_pos
  · have whole : units / one ≠ 0 := (Nat.div_pos large one_pos).ne'
    have bound := Nat.mul_le_mul_right one (ten_pow_length_le whole)
    rw [leadingExponent_of_large large, tick, scale, Nat.mul_one]
    exact bound.trans (Nat.div_mul_le_self units one)

/-- A further digit makes the ticks ten times as fine. -/
theorem tick_sub {units : Nat} {exponent : Int} (reached : tick exponent ≤ units * scale exponent)
    (digits : Nat) :
    tick (exponent - digits) * 10 ^ digits ≤ units * scale (exponent - digits) := by
  induction digits with
  | zero => simpa using reached
  | succ digits ih =>
    have next : exponent - digits = exponent - (digits + 1 : Nat) + 1 := by
      push_cast
      ring
    rw [next] at ih
    generalize exponent - (digits + 1 : Nat) = exponent at *
    refine Nat.le_of_mul_le_mul_right ?_ (scale_pos (exponent + 1))
    calc
      _ = 10 * tick exponent * scale (exponent + 1) * 10 ^ digits := by ring
      _ = tick (exponent + 1) * 10 ^ digits * scale exponent := by
        rw [← tick_succ]
        ring
      _ ≤ units * scale (exponent + 1) * scale exponent := Nat.mul_le_mul_right _ ih
      _ = _ := by ring

theorem steps_eq (units : Nat) (exponent : Int) :
    steps units exponent = (units * scale exponent / tick exponent,
      compare (2 * (units * scale exponent % tick exponent)) (tick exponent)) := by
  cases exponent with
  | ofNat e => simp only [steps, tick, scale, Nat.mul_one, Nat.pow_eq, Nat.mul_comm one]
  | negSucc e => rfl

theorem tick_pos (exponent : Int) : 0 < tick exponent := by
  cases exponent with
  | ofNat e => exact Nat.mul_pos (Nat.pow_pos (by decide)) one_pos
  | negSucc e => exact one_pos

/-- `hit` tries the nearest number of ticks first. -/
theorem hit_cases (r : Rounding) (units : Nat) (exponent : Int) : ∃ first second,
    2 * (units * scale exponent) ≤ 2 * (first * tick exponent) + tick exponent ∧
    2 * (first * tick exponent) ≤ 2 * (units * scale exponent) + tick exponent ∧
    hit? r units exponent =
      if r.holds first exponent then some first
      else if r.holds second exponent then some second else none := by
  have parts := Nat.div_add_mod (units * scale exponent) (tick exponent)
  have rest := Nat.mod_lt (units * scale exponent) (tick_pos exponent)
  simp only [hit?, steps_eq]
  generalize units * scale exponent / tick exponent = down at *
  generalize units * scale exponent % tick exponent = left at *
  have up : (down + 1) * tick exponent = down * tick exponent + tick exponent := by ring
  rw [Nat.mul_comm] at parts
  cases order : compare (2 * left) (tick exponent) with
  | lt =>
    have less := Nat.compare_eq_lt.mp order
    exact ⟨down, down + 1, by omega, by omega, rfl⟩
  | gt =>
    have more := Nat.compare_eq_gt.mp order
    exact ⟨down + 1, down, by omega, by omega, rfl⟩
  | eq =>
    have same := Nat.compare_eq_eq.mp order
    by_cases even : down % 2 = 0
    · refine ⟨down, down + 1, by omega, by omega, ?_⟩
      simp only [even, decide_true, if_true]
    · refine ⟨down + 1, down, by omega, by omega, ?_⟩
      simp only [even, decide_false, if_false, Bool.false_eq_true]

theorem holds_of_hit {r : Rounding} {units digits : Nat} {exponent : Int}
    (hit : hit? r units exponent = some digits) : r.holds digits exponent = true := by
  obtain ⟨first, second, -, -, cases⟩ := hit_cases r units exponent
  grind

/-- `hit` succeeds with seventeen digits, whose ticks are finer than the spacing of doubles. -/
theorem hit_of_fine {units : Nat} {exponent : Int} (magnitude : IsMagnitude units)
    (fine : tick exponent * 10 ^ 16 ≤ units * scale exponent) :
    (hit? (rounding units) units exponent).isSome := by
  obtain ⟨first, second, low, high, cases⟩ := hit_cases (rounding units) units exponent
  suffices holds : (rounding units).holds first exponent = true by simp [cases, holds]
  rw [Rounding.holds_iff]
  obtain ⟨significand, power, rfl, step, small, _⟩ := magnitude.significand
  have some_tick := tick_pos exponent
  have product : significand * 2 ^ power * scale exponent =
      significand * (scale exponent * 2 ^ power) := by ring
  rw [product] at low high fine
  have share_pos : 0 < scale exponent * 2 ^ power :=
    Nat.mul_pos (scale_pos exponent) (Nat.two_pow_pos power)
  have nonzero : 0 < significand := by
    rcases Nat.eq_zero_or_pos significand with rfl | positive
    · omega
    · exact positive
  have scaled := Nat.mul_le_mul_right (scale exponent * 2 ^ power) small.le
  have whole_pos := Nat.le_mul_of_pos_left (scale exponent * 2 ^ power) nonzero
  -- Half a tick is less than the magnitude is away from its lower bound.
  have narrow : 2 * tick exponent < stepsBelow significand power * (scale exponent * 2 ^ power) := by
    unfold stepsBelow
    split
    · rename_i edge
      rw [edge.1] at fine
      generalize scale exponent * 2 ^ power = share at *
      omega
    · generalize scale exponent * 2 ^ power = share at *
      omega
  have slack := Nat.mul_le_mul_right (scale exponent * 2 ^ power) (stepsBelow_le significand power)
  generalize first * tick exponent = near at *
  refine Rounding.within_of_bounds step ?_ ?_ ?_
  · omega
  · omega
  · omega

theorem shortestFrom_holds {r : Rounding} {units fuel digits : Nat} {exponent : Int}
    (found : (hit? r units (exponent - digits)).isSome) (enough : digits < fuel) :
    r.holds (shortestFrom r units fuel exponent).1 (shortestFrom r units fuel exponent).2 = true := by
  induction fuel generalizing exponent digits with
  | zero => contradiction
  | succ fuel ih =>
    rw [shortestFrom]
    split
    · rename_i hit
      exact holds_of_hit hit
    · rename_i miss
      cases digits with
      | zero => simp [miss] at found
      | succ digits =>
        have next : exponent - (digits + 1 : Nat) = exponent - 1 - digits := by
          push_cast
          ring
        rw [next] at found
        exact ih found (by omega)

/-- `ofDecimal` is invariant under `dropZeros`. -/
theorem ofDecimal_dropZeros (negative : Bool) (fuel : Nat) (decimal : Nat × Int) :
    ofDecimal negative (dropZeros fuel decimal).1 (dropZeros fuel decimal).2 =
      ofDecimal negative decimal.1 decimal.2 := by
  induction fuel generalizing decimal with
  | zero => rfl
  | succ fuel ih =>
    obtain ⟨digits, exponent⟩ := decimal
    rw [dropZeros]
    split
    · rename_i trailing
      simp only [Bool.and_eq_true, decide_eq_true_eq] at trailing
      have whole : digits = 10 * (digits / 10) := by omega
      rw [ih, ← ofDecimal_mul_ten, ← whole]
    · rfl

/-- `ofDecimal` inverts `shortest` on nonzero magnitudes of doubles. -/
theorem ofDecimal_shortest {units : Nat} (magnitude : IsMagnitude units) (nonzero : units ≠ 0)
    (negative : Bool) :
    ofDecimal negative (shortest units).1 (shortest units).2 = finite negative units := by
  have fine := tick_sub (tick_leadingExponent nonzero) 16
  have found := shortestFrom_holds (hit_of_fine magnitude fine) (show 16 < 17 by decide)
  rw [shortest, ofDecimal_dropZeros]
  exact ofDecimal_within magnitude nonzero found negative

end TypedCatalog.Binary64
