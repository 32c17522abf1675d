import TypedCatalog.Number.Binary64

/-! The shortest decimal that reads back as a double: the fewest digits, and of those the
nearest. -/
namespace TypedCatalog.Binary64

/-- The decimals that round to a magnitude lie between these bounds, in quarters of a unit. -/
structure Rounding where
  low : Nat
  high : Nat
  /-- Whether the bounds themselves round to the magnitude. -/
  closed : Bool

def rounding (units : Nat) : Rounding :=
  let step := spacing units
  let below := if units = Nat.pow 2 52 * step && 1 < step then step else 2 * step
  { low := 4 * units - below, high := 4 * units + 2 * step, closed := units / step % 2 = 0 }

/-- Whether `digits · 10^exponent` rounds to the magnitude. -/
def Rounding.holds (r : Rounding) (digits : Nat) (exponent : Int) : Bool :=
  let (value, scale) := match exponent with
    | .ofNat e => (digits * Nat.pow 10 e * (4 * one), 1)
    | .negSucc e => (digits * (4 * one), Nat.pow 10 (e + 1))
  if r.closed then r.low * scale ≤ value && value ≤ r.high * scale
  else r.low * scale < value && value < r.high * scale

/-- The number of whole steps of `10^exponent` in a magnitude, and whether what is left is below,
at or above half a step. -/
def steps (units : Nat) (exponent : Int) : Nat × Ordering :=
  let (num, den) := match exponent with
    | .ofNat e => (units, one * Nat.pow 10 e)
    | .negSucc e => (units * Nat.pow 10 (e + 1), one)
  (num / den, compare (2 * (num % den)) den)

/-- The decimal exponent of the first digit. -/
def leadingExponent (units : Nat) : Int :=
  if one ≤ units then (Nat.toDigits 10 (units / one)).length - 1
  else
    let rec search : (fuel : Nat) → (power : Nat) → (exponent : Nat) → Int
      | 0, _, exponent => -exponent
      | fuel + 1, power, exponent =>
        if one ≤ units * power then -exponent else search fuel (power * 10) (exponent + 1)
    search 330 10 1

/-- The nearest decimal with a given least exponent that rounds to the magnitude. -/
def hit? (r : Rounding) (units : Nat) (exponent : Int) : Option Nat :=
  let (down, half) := steps units exponent
  let downFirst := match half with
    | .lt => true
    | .gt => false
    | .eq => down % 2 = 0
  let (first, second) := if downFirst then (down, down + 1) else (down + 1, down)
  if r.holds first exponent then some first
  else if r.holds second exponent then some second
  else none

/-- Digits and exponent of the shortest decimal, trying one digit more at a time. -/
def shortestFrom (r : Rounding) (units : Nat) : (fuel : Nat) → (exponent : Int) → Nat × Int
  | 0, exponent => ((steps units exponent).1, exponent)
  | fuel + 1, exponent =>
    match hit? r units exponent with
    | some digits => (digits, exponent)
    | none => shortestFrom r units fuel (exponent - 1)

/-- The digits, with no zero at the end, and the exponent of the last one. -/
def dropZeros : (fuel : Nat) → Nat × Int → Nat × Int
  | 0, result => result
  | fuel + 1, (digits, exponent) =>
    if digits ≠ 0 && digits % 10 = 0 then dropZeros fuel (digits / 10, exponent + 1)
    else (digits, exponent)

/-- The shortest decimal of a magnitude that is not zero. -/
def shortest (units : Nat) : Nat × Int :=
  dropZeros 320 (shortestFrom (rounding units) units 17 (leadingExponent units))

end TypedCatalog.Binary64
