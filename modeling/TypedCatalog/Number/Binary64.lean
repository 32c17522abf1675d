/-! Double precision numbers. A finite number is a sign and a whole count of the least positive
double, 2^-1074, so that comparison and rounding are arithmetic on natural numbers. -/
namespace TypedCatalog

/-- The quotient rounded to the nearest whole number, a half to the even neighbour. -/
def roundDiv (num den : Nat) : Nat :=
  let quotient := num / den
  let twice := 2 * (num % den)
  if twice < den then quotient
  else if den < twice then quotient + 1
  else quotient + quotient % 2

inductive Binary64 where
  /-- The magnitude is `units` times 2^-1074. -/
  | finite (negative : Bool) (units : Nat)
  | infinite (negative : Bool)
  | undefined
  deriving DecidableEq, Inhabited

namespace Binary64

/-- The units of the number one. -/
def one : Nat := Nat.pow 2 1074

/-- The units of the least magnitude that is not finite. -/
def limit : Nat := Nat.pow 2 2098

/-- The distance between the doubles around a magnitude. -/
def spacing (units : Nat) : Nat := Nat.pow 2 (Nat.log2 units + 1 - 53)

/-- The double nearest to a quotient of units, a tie to the even significand. -/
def ofUnits (negative : Bool) (num den : Nat) : Binary64 :=
  let step := spacing (num / den)
  let units := roundDiv num (den * step) * step
  if units < limit then finite negative units else infinite negative

def zero : Binary64 := finite false 0

/-- The double nearest to an integer; none if it is past the finite ones. -/
def ofInt? (n : Int) : Option Binary64 :=
  match ofUnits (n < 0) (n.natAbs * one) 1 with
  | finite negative units => some (finite negative units)
  | _ => none

/-- The double nearest to `digits · 10^exponent`. -/
def ofDecimal (negative : Bool) (digits : Nat) (exponent : Int) : Binary64 :=
  let size := exponent + (Nat.toDigits 10 digits).length
  if digits = 0 || size < -330 then finite negative 0
  else if 320 < size then infinite negative
  else match exponent with
    | .ofNat e => ofUnits negative (digits * Nat.pow 10 e * one) 1
    | .negSucc e => ofUnits negative (digits * one) (Nat.pow 10 (e + 1))

def isNegative : Binary64 → Bool
  | finite negative _ => negative
  | infinite negative => negative
  | undefined => false

def neg : Binary64 → Binary64
  | finite negative units => finite (!negative) units
  | infinite negative => infinite (!negative)
  | undefined => undefined

/-- The signed units of a finite double. -/
def scaled (negative : Bool) (units : Nat) : Int := if negative then -units else units

def add : Binary64 → Binary64 → Binary64
  | undefined, _ | _, undefined => undefined
  | infinite a, infinite b => if a = b then infinite a else undefined
  | infinite a, finite _ _ => infinite a
  | finite _ _, infinite b => infinite b
  | finite a m, finite b n =>
    let sum := scaled a m + scaled b n
    ofUnits (if sum = 0 then a && b else sum < 0) sum.natAbs 1

def mul : Binary64 → Binary64 → Binary64
  | undefined, _ | _, undefined => undefined
  | infinite a, infinite b => infinite (a != b)
  | infinite a, finite b n => if n = 0 then undefined else infinite (a != b)
  | finite a m, infinite b => if m = 0 then undefined else infinite (a != b)
  | finite a m, finite b n => ofUnits (a != b) (m * n) one

def isZero : Binary64 → Bool
  | finite _ units => units = 0
  | _ => false

/-- Equality of numbers: the zeros are equal, and nothing equals what is undefined. -/
def sameNumber : Binary64 → Binary64 → Bool
  | finite a m, finite b n => scaled a m = scaled b n
  | infinite a, infinite b => a = b
  | _, _ => false

def sameInt (n : Int) : Binary64 → Bool
  | finite negative units => scaled negative units = n * one
  | _ => false

/-- The whole part, toward zero. -/
def truncate? : Binary64 → Option Int
  | finite negative units => some (scaled negative (units / one))
  | _ => none

end Binary64
end TypedCatalog
