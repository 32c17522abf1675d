import TypedCatalog.Number.Shortest
import TypedCatalog.Text.Basic

/-! The text of a double: positional while the first digit is not too far from the point, with an
exponent of at least two digits beyond. -/
namespace TypedCatalog.Binary64

/-- What a written number looks like. -/
structure Shape where
  /-- The least and the greatest exponent of a first digit that is written positionally. -/
  least : Int
  greatest : Int
  infinity : Text
  undefined : Text

def plain : Shape := ⟨-4, 15, "inf", "nan"⟩

/-- The shape of JSON numbers, with names for what JSON lacks. -/
def named : Shape := ⟨-4, 15, "Infinity", "NaN"⟩

def sign (negative : Bool) : Text := if negative then "-" else []

/-- Digits with a point, given how many of them stand before it. -/
def positional (digits : Text) (whole : Int) : Text :=
  match whole with
  | .ofNat 0 => "0." ++ digits
  | .ofNat n =>
    if n < digits.length then digits.take n ++ '.' :: digits.drop n
    else digits ++ List.replicate (n - digits.length) '0' ++ ['.', '0']
  | .negSucc n => '0' :: '.' :: List.replicate (n + 1) '0' ++ digits

/-- Digits with the point after the first, and an exponent. -/
def scientific (digits : Text) (exponent : Int) : Text :=
  let fraction := if digits.length ≤ 1 then [] else '.' :: digits.drop 1
  let mark : Text := if exponent < 0 then "e-" else "e+"
  digits.take 1 ++ fraction ++ mark ++ Text.ofNatPadded 2 exponent.natAbs

def magnitude (shape : Shape) (units : Nat) : Text :=
  if units = 0 then "0.0"
  else
    let (number, last) := shortest units
    let digits := Text.ofNat number
    let first := last + digits.length - 1
    if shape.least ≤ first && first ≤ shape.greatest then positional digits (first + 1)
    else scientific digits first

def write (shape : Shape) : Binary64 → Text
  | finite negative units => sign negative ++ magnitude shape units
  | infinite negative => sign negative ++ shape.infinity
  | undefined => shape.undefined

def text (x : Binary64) : Text := write plain x

/-- The nearest whole number, a half to the even neighbour, without a point. -/
def wholeText : Binary64 → Text
  | finite negative units => sign negative ++ Text.ofNat (roundDiv units one)
  | infinite negative => sign negative ++ plain.infinity
  | undefined => plain.undefined

end TypedCatalog.Binary64
