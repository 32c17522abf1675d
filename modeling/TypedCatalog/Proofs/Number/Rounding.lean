import Mathlib.Tactic.Linarith
import Mathlib.Tactic.Ring
import TypedCatalog.Number.Shortest

/-! Correctness of rounding to `Binary64`: results are doubles, and a quotient within the rounding
interval of a double rounds to it. -/
namespace TypedCatalog

theorem roundDiv_eq {num den whole : Nat} (low : 2 * (whole * den) ≤ 2 * num + den)
    (high : 2 * num ≤ 2 * (whole * den) + den)
    (tie : 2 * (whole * den) < 2 * num + den ∧ 2 * num < 2 * (whole * den) + den ∨ whole % 2 = 0)
    (positive : 0 < den) : roundDiv num den = whole := by
  have parts := Nat.div_add_mod num den
  have small := Nat.mod_lt num positive
  simp only [roundDiv]
  generalize num / den = quotient at *
  generalize num % den = rest at *
  rw [Nat.mul_comm] at parts
  have least : whole ≤ quotient + 1 := by
    by_contra above
    have scaled := Nat.mul_le_mul_right den (show quotient + 2 ≤ whole by omega)
    rw [Nat.add_mul] at scaled
    omega
  have greatest : quotient ≤ whole := by
    by_contra below
    have scaled := Nat.mul_le_mul_right den (show whole + 1 ≤ quotient by omega)
    rw [Nat.add_mul] at scaled
    omega
  obtain same | next : whole = quotient ∨ whole = quotient + 1 := by omega
  · subst same
    split
    · rfl
    · split
      · omega
      · omega
  · subst next
    rw [Nat.add_mul] at low high tie
    split
    · omega
    · split
      · rfl
      · omega

theorem roundDiv_le (num den : Nat) : roundDiv num den ≤ num / den + 1 := by
  simp only [roundDiv]
  split
  · omega
  · split
    · omega
    · have parity := Nat.mod_lt (num / den) (show 0 < 2 by decide)
      omega

namespace Binary64

/-- The magnitude of a finite double: a multiple of the spacing at its binade. -/
structure IsMagnitude (units : Nat) : Prop where
  finite : units < limit
  onGrid : spacing units ∣ units

/-- Every finite value has a magnitude of a double. -/
def IsDouble (x : Binary64) : Prop := ∀ negative units, x = finite negative units → IsMagnitude units

theorem spacing_eq {units power : Nat} (low : power = 0 ∨ 2 ^ (52 + power) ≤ units)
    (high : units < 2 ^ (53 + power)) : spacing units = 2 ^ power := by
  have bits : Nat.log2 units + 1 - 53 = power := by
    by_cases zero : units = 0
    · rcases low with rfl | low
      · simp [zero]
      · exact absurd low (by simp [zero])
    · have above := (Nat.log2_lt zero).mpr high
      rcases low with rfl | low
      · omega
      · have below := (Nat.le_log2 zero).mpr low
        omega
  exact congrArg (Nat.pow 2) bits

/-- A magnitude is a significand of at most 53 bits times a power of two. -/
theorem IsMagnitude.significand {units : Nat} (magnitude : IsMagnitude units) :
    ∃ significand power, units = significand * 2 ^ power ∧ spacing units = 2 ^ power ∧
      significand < 2 ^ 53 ∧ (power = 0 ∨ 2 ^ 52 ≤ significand) := by
  obtain ⟨significand, shape⟩ := magnitude.onGrid
  have step : spacing units = 2 ^ (Nat.log2 units + 1 - 53) := rfl
  rw [step, Nat.mul_comm] at shape
  have top := Nat.lt_log2_self (n := units)
  have positive := Nat.two_pow_pos (Nat.log2 units + 1 - 53)
  refine ⟨significand, _, shape, step, ?_, ?_⟩
  · by_contra above
    have scaled := Nat.mul_le_mul_right (2 ^ (Nat.log2 units + 1 - 53)) (Nat.le_of_not_lt above)
    rw [← shape, ← Nat.pow_add] at scaled
    have bits := (Nat.pow_lt_pow_iff_right (by decide)).mp (Nat.lt_of_le_of_lt scaled top)
    omega
  · by_cases small : Nat.log2 units + 1 ≤ 53
    · exact .inl (by omega)
    · right
      by_contra below
      have nonzero : units ≠ 0 := by
        rintro rfl
        exact small (by decide)
      have bottom := Nat.log2_self_le nonzero
      have scaled := Nat.mul_lt_mul_of_pos_right (Nat.lt_of_not_le below) positive
      rw [← shape, ← Nat.pow_add] at scaled
      have bits := (Nat.pow_lt_pow_iff_right (by decide)).mp (Nat.lt_of_le_of_lt bottom scaled)
      omega

theorem spacing_dvd {significand power : Nat} (bound : significand ≤ 2 ^ 53) :
    spacing (significand * 2 ^ power) ∣ significand * 2 ^ power := by
  rcases Nat.lt_or_eq_of_le bound with small | rfl
  · by_cases zero : significand = 0
    · simp [zero]
    · have positive := Nat.two_pow_pos power
      have nonzero : significand * 2 ^ power ≠ 0 := Nat.mul_ne_zero zero positive.ne'
      have high : significand * 2 ^ power < 2 ^ (53 + power) := by
        rw [Nat.pow_add]
        exact Nat.mul_lt_mul_of_pos_right small positive
      have bits := (Nat.log2_lt nonzero).mpr high
      have divides : spacing (significand * 2 ^ power) ∣ 2 ^ power :=
        Nat.pow_dvd_pow 2 (by omega)
      exact divides.mul_left significand
  · have step : spacing (2 ^ 53 * 2 ^ power) = 2 ^ (power + 1) := by
      rw [← Nat.pow_add]
      refine spacing_eq (.inr (Nat.pow_le_pow_right (by decide) (by omega))) ?_
      exact Nat.pow_lt_pow_right (by decide) (by omega)
    rw [step, ← Nat.pow_add]
    exact Nat.pow_dvd_pow 2 (by omega)

theorem isDouble_ofUnits (negative : Bool) (num den : Nat) :
    (ofUnits negative num den).IsDouble := by
  have step : spacing (num / den) = 2 ^ (Nat.log2 (num / den) + 1 - 53) := rfl
  have rounded : roundDiv num (den * spacing (num / den)) ≤ 2 ^ 53 := by
    refine (roundDiv_le _ _).trans (Nat.succ_le_of_lt ?_)
    rw [← Nat.div_div_eq_div_mul, step, Nat.div_lt_iff_lt_mul (Nat.two_pow_pos _), ← Nat.pow_add]
    exact Nat.lt_of_lt_of_le Nat.lt_log2_self (Nat.pow_le_pow_right (by decide) (by omega))
  have onGrid := @spacing_dvd _ (Nat.log2 (num / den) + 1 - 53) rounded
  rw [← step] at onGrid
  intro _ units same
  simp only [ofUnits] at same
  split at same
  · rename_i bound
    obtain ⟨rfl, rfl⟩ := Binary64.finite.inj same
    exact ⟨bound, onGrid⟩
  · contradiction

theorem isMagnitude_zero : IsMagnitude 0 := ⟨by decide +kernel, Nat.dvd_zero _⟩

theorem isDouble_ofDecimal (negative : Bool) (digits : Nat) (exponent : Int) :
    (ofDecimal negative digits exponent).IsDouble := by
  simp only [ofDecimal]
  split
  · intro _ units same
    obtain ⟨rfl, rfl⟩ := Binary64.finite.inj same
    exact isMagnitude_zero
  · split
    · intro _ units same
      contradiction
    · split
      · exact isDouble_ofUnits _ _ _
      · exact isDouble_ofUnits _ _ _

/-- The quotient of units lies in the rounding interval of a magnitude. -/
def Rounding.Within (r : Rounding) (num den : Nat) : Prop :=
  if r.closed then r.low * den ≤ 4 * num ∧ 4 * num ≤ r.high * den
  else r.low * den < 4 * num ∧ 4 * num < r.high * den

/-- The half spacing below a magnitude, in quarters: half as large at the lower end of a binade. -/
def stepsBelow (significand power : Nat) : Nat := if significand = 2 ^ 52 ∧ 0 < power then 1 else 2

theorem stepsBelow_le (significand power : Nat) : stepsBelow significand power ≤ 2 := by
  unfold stepsBelow
  split <;> decide

/-- The rounding interval of a magnitude, in quarters of its spacing. -/
theorem rounding_eq {significand power : Nat}
    (step : spacing (significand * 2 ^ power) = 2 ^ power) (den : Nat) :
    (rounding (significand * 2 ^ power)).low * den =
      4 * (significand * (den * 2 ^ power)) - stepsBelow significand power * (den * 2 ^ power) ∧
    (rounding (significand * 2 ^ power)).high * den =
      4 * (significand * (den * 2 ^ power)) + 2 * (den * 2 ^ power) ∧
    ((rounding (significand * 2 ^ power)).closed = true ↔ significand % 2 = 0) := by
  have positive := Nat.two_pow_pos power
  have first : significand * 2 ^ power = Nat.pow 2 52 * 2 ^ power ↔ significand = 2 ^ 52 :=
    Nat.mul_left_inj positive.ne'
  have second : 1 < 2 ^ power ↔ 0 < power := Nat.one_lt_two_pow_iff.trans Nat.pos_iff_ne_zero.symm
  have below : (if significand * 2 ^ power = Nat.pow 2 52 * 2 ^ power && 1 < 2 ^ power then
      2 ^ power else 2 * 2 ^ power) = stepsBelow significand power * 2 ^ power := by
    simp only [stepsBelow, first, second, Bool.and_eq_true, decide_eq_true_eq]
    split <;> simp
  have even : significand * 2 ^ power / 2 ^ power = significand :=
    Nat.mul_div_cancel significand positive
  simp only [rounding, step, below, even, decide_eq_true_eq, and_true]
  constructor
  · rw [Nat.sub_mul]
    ring_nf
  · ring

theorem Rounding.Within.bounds {significand power num den : Nat}
    (step : spacing (significand * 2 ^ power) = 2 ^ power)
    (within : (rounding (significand * 2 ^ power)).Within num den) :
    4 * (significand * (den * 2 ^ power)) ≤
      4 * num + stepsBelow significand power * (den * 2 ^ power) ∧
    4 * num ≤ 4 * (significand * (den * 2 ^ power)) + 2 * (den * 2 ^ power) ∧
    (4 * (significand * (den * 2 ^ power)) <
      4 * num + stepsBelow significand power * (den * 2 ^ power) ∧
      4 * num < 4 * (significand * (den * 2 ^ power)) + 2 * (den * 2 ^ power) ∨
      significand % 2 = 0) := by
  obtain ⟨low, high, closed⟩ := rounding_eq step den
  simp only [Rounding.Within, low, high, closed] at within
  generalize stepsBelow significand power * (den * 2 ^ power) = below at *
  generalize significand * (den * 2 ^ power) = whole at *
  generalize den * 2 ^ power = share at *
  split at within
  · omega
  · omega

theorem Rounding.within_of_bounds {significand power num den : Nat}
    (step : spacing (significand * 2 ^ power) = 2 ^ power)
    (low : 4 * (significand * (den * 2 ^ power)) <
      4 * num + stepsBelow significand power * (den * 2 ^ power))
    (high : 4 * num < 4 * (significand * (den * 2 ^ power)) + 2 * (den * 2 ^ power))
    (positive : 0 < num) : (rounding (significand * 2 ^ power)).Within num den := by
  obtain ⟨least, most, _⟩ := rounding_eq step den
  simp only [Rounding.Within, least, most]
  generalize stepsBelow significand power * (den * 2 ^ power) = below at *
  generalize significand * (den * 2 ^ power) = whole at *
  generalize den * 2 ^ power = share at *
  split
  · omega
  · omega

theorem ofUnits_of_spacing {negative : Bool} {num den whole power : Nat}
    (step : spacing (num / den) = 2 ^ power) (rounds : roundDiv num (den * 2 ^ power) = whole)
    (bound : whole * 2 ^ power < limit) :
    ofUnits negative num den = finite negative (whole * 2 ^ power) := by
  simp only [ofUnits, step, rounds, bound, if_true]

theorem le_div_two_pow {num den bits power : Nat} (positive : 0 < den) :
    2 ^ (bits + power) ≤ num / den ↔ 2 ^ bits * (den * 2 ^ power) ≤ num := by
  rw [Nat.le_div_iff_mul_le positive, Nat.pow_add, Nat.mul_assoc, Nat.mul_comm (2 ^ power)]

/-- A quotient below a power of two by at most half of the spacing there rounds up to it. -/
theorem ofUnits_edge {num den power : Nat} (positive : 0 < den)
    (low : 4 * (2 ^ 53 * (den * 2 ^ power)) ≤ 4 * num + 2 * (den * 2 ^ power))
    (below : num < 2 ^ 53 * (den * 2 ^ power)) (bound : 2 ^ 53 * 2 ^ power < limit)
    (negative : Bool) : ofUnits negative num den = finite negative (2 ^ 53 * 2 ^ power) := by
  have share_pos : 0 < den * 2 ^ power := Nat.mul_pos positive (Nat.two_pow_pos power)
  have step : spacing (num / den) = 2 ^ power := by
    have least := @le_div_two_pow num den 52 power positive
    have most := @le_div_two_pow num den 53 power positive
    generalize den * 2 ^ power = share at *
    apply spacing_eq
    · right
      exact least.mpr (by omega)
    · apply Nat.lt_of_not_le
      intro reaches
      have above := most.mp reaches
      omega
  generalize shared : den * 2 ^ power = share at *
  apply ofUnits_of_spacing step _ bound
  rw [shared]
  apply roundDiv_eq
  · omega
  · omega
  · right
    decide
  · exact share_pos

/-- A quotient within the interval lies below the next binade. -/
theorem Rounding.Within.below {significand power num den : Nat}
    (step : spacing (significand * 2 ^ power) = 2 ^ power)
    (within : (rounding (significand * 2 ^ power)).Within num den) (positive : 0 < den)
    (small : significand < 2 ^ 53) : num / den < 2 ^ (53 + power) := by
  obtain ⟨-, high, -⟩ := within.bounds step
  have share_pos : 0 < den * 2 ^ power := Nat.mul_pos positive (Nat.two_pow_pos power)
  have scaled := Nat.mul_le_mul_right (den * 2 ^ power) (Nat.le_sub_one_of_lt small)
  apply Nat.lt_of_not_le
  rw [le_div_two_pow positive]
  generalize den * 2 ^ power = share at *
  omega

/-- A quotient within the interval reaches the binade, unless the significand is the least one. -/
theorem Rounding.Within.reaches {significand power num den : Nat}
    (step : spacing (significand * 2 ^ power) = 2 ^ power)
    (within : (rounding (significand * 2 ^ power)).Within num den) (positive : 0 < den)
    (normal : power = 0 ∨ 2 ^ 52 ≤ significand)
    (inner : ¬(significand = 2 ^ 52 ∧ 0 < power ∧ ¬2 ^ (52 + power) ≤ num / den)) :
    power = 0 ∨ 2 ^ (52 + power) ≤ num / den := by
  by_contra misses
  obtain ⟨nonzero, misses⟩ := not_or.mp misses
  have above : significand ≠ 2 ^ 52 := by
    intro least
    exact inner ⟨least, Nat.pos_of_ne_zero nonzero, misses⟩
  obtain ⟨low, -, -⟩ := within.bounds step
  have scaled := Nat.mul_le_mul_right (den * 2 ^ power)
    (Nat.lt_of_le_of_ne (normal.resolve_left nonzero) above.symm)
  rw [stepsBelow, if_neg fun edge => above edge.1] at low
  rw [le_div_two_pow positive] at misses
  have share_pos : 0 < den * 2 ^ power := Nat.mul_pos positive (Nat.two_pow_pos power)
  generalize den * 2 ^ power = share at *
  omega

/-- `ofUnits` of a quotient within the interval of a double is that double. -/
theorem ofUnits_within {units num den : Nat} (magnitude : IsMagnitude units)
    (within : (rounding units).Within num den) (positive : 0 < den) (negative : Bool) :
    ofUnits negative num den = finite negative units := by
  obtain ⟨significand, power, rfl, step, small, normal⟩ := magnitude.significand
  have under := within.below step positive small
  have reaches := within.reaches step positive normal
  obtain ⟨low, high, tie⟩ := within.bounds step
  have share_pos : 0 < den * 2 ^ power := Nat.mul_pos positive (Nat.two_pow_pos power)
  -- Below the smallest of the doubles that are so far apart, others are twice as close.
  by_cases edge : significand = 2 ^ 52 ∧ 0 < power ∧ ¬2 ^ (52 + power) ≤ num / den
  · obtain ⟨rfl, nonzero, below⟩ := edge
    obtain ⟨power, rfl⟩ := Nat.exists_eq_succ_of_ne_zero nonzero.ne'
    have half : den * 2 ^ (power + 1) = 2 * (den * 2 ^ power) := by ring
    have same : 2 ^ 52 * 2 ^ (power + 1) = 2 ^ 53 * 2 ^ power := by ring
    have bound := magnitude.finite
    rw [stepsBelow, if_pos ⟨rfl, nonzero⟩, Nat.succ_eq_add_one, half] at low
    rw [le_div_two_pow positive, Nat.succ_eq_add_one, half] at below
    rw [Nat.succ_eq_add_one, same] at bound ⊢
    apply ofUnits_edge positive _ _ bound
    · omega
    · omega
  · have slack := Nat.mul_le_mul_right (den * 2 ^ power) (stepsBelow_le significand power)
    apply ofUnits_of_spacing (spacing_eq (reaches edge) under) _ magnitude.finite
    apply roundDiv_eq
    · omega
    · omega
    · omega
    · exact share_pos

end Binary64
end TypedCatalog
