/-! Text is a list of characters, so that every function on it is a recursion on its characters. -/
namespace TypedCatalog

abbrev Text := List Char

instance : Coe String Text := ⟨String.toList⟩

namespace Text

/-- Membership of a code point in ranges that include both ends. -/
def inRanges (ranges : List (Nat × Nat)) (code : Nat) : Bool :=
  ranges.any fun (first, last) => first ≤ code && code ≤ last

def isDigit (c : Char) : Bool := '0' ≤ c && c ≤ '9'

def isLower (c : Char) : Bool := 'a' ≤ c && c ≤ 'z'

def isUpper (c : Char) : Bool := 'A' ≤ c && c ≤ 'Z'

/-- A letter or digit of the basic Latin alphabet. -/
def isAlnum (c : Char) : Bool := isDigit c || isLower c || isUpper c

/-- The small letter of a basic Latin capital; any other character stays. -/
def lowerAscii (c : Char) : Char := if isUpper c then Char.ofNat (c.toNat + 32) else c

/-- The capital of a basic Latin small letter; any other character stays. -/
def upperAscii (c : Char) : Char := if isLower c then Char.ofNat (c.toNat - 32) else c

def hexValue? (c : Char) : Option Nat :=
  if isDigit c then some (c.toNat - 48)
  else if 'a' ≤ c && c ≤ 'f' then some (c.toNat - 87)
  else if 'A' ≤ c && c ≤ 'F' then some (c.toNat - 55)
  else none

/-- A digit below sixteen, with small letters. -/
def hexDigit (n : Nat) : Char := if n < 10 then Char.ofNat (48 + n) else Char.ofNat (87 + n)

/-- The lowest `width` digits of a number in base sixteen. -/
def hex : (width : Nat) → Nat → Text
  | 0, _ => []
  | width + 1, n => hex width (n / 16) ++ [hexDigit (n % 16)]

/-- Pieces between the occurrences of a character: one more piece than occurrences. -/
def splitOn (separator : Char) : Text → List Text
  | [] => [[]]
  | c :: rest =>
    if c = separator then [] :: splitOn separator rest
    else match splitOn separator rest with
      | [] => [[c]]
      | piece :: pieces => (c :: piece) :: pieces

/-- The parts before and after the first occurrence of a character. -/
def cut? (separator : Char) : Text → Option (Text × Text)
  | [] => none
  | c :: rest =>
    if c = separator then some ([], rest)
    else (cut? separator rest).map fun (before, after) => (c :: before, after)

/-- Pieces with a text between neighbours. -/
def join (separator : Text) : List Text → Text
  | [] => []
  | [piece] => piece
  | piece :: pieces => piece ++ separator ++ join separator pieces

/-- What follows `start`, if the text begins with it. -/
def after? (start text : Text) : Option Text :=
  match start, text with
  | [], rest => some rest
  | s :: start, c :: text => if s = c then after? start text else none
  | _ :: _, [] => none

/-- What precedes `ending`, if the text ends with it. -/
def before? (ending text : Text) : Option Text :=
  (after? ending.reverse text.reverse).map List.reverse

def startsWith (start text : Text) : Bool := (after? start text).isSome

/-- Whether `part` stands somewhere in the text. -/
def occursIn (part : Text) : Text → Bool
  | [] => part.isEmpty
  | c :: rest => startsWith part (c :: rest) || occursIn part rest

/-- Drops characters of a class from both ends. -/
def trimBy (drops : Char → Bool) (text : Text) : Text :=
  ((text.dropWhile drops).reverse.dropWhile drops).reverse

/-- Blanks after the text, up to a width in characters. -/
def padRight (width : Nat) (text : Text) : Text :=
  text ++ List.replicate (width - text.length) ' '

def ofNat (n : Nat) : Text := Nat.toDigits 10 n

def ofInt : Int → Text
  | .ofNat n => ofNat n
  | .negSucc n => '-' :: ofNat (n + 1)

/-- A number with zeros in front, up to a width. -/
def ofNatPadded (width n : Nat) : Text :=
  List.replicate (width - (ofNat n).length) '0' ++ ofNat n

/-- Order by code points. -/
def le : Text → Text → Bool
  | [], _ => true
  | _ :: _, [] => false
  | a :: as, b :: bs => a < b || (a == b && le as bs)

end Text
end TypedCatalog
