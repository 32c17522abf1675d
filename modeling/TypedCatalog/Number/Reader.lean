import TypedCatalog.Number.Binary64
import TypedCatalog.Text.Blank
import TypedCatalog.Text.Digit

/-! Numbers in text. Digits of every script count, a single underscore may stand between two
digits, and white space may stand around the number. -/
namespace TypedCatalog.Number

/-- White space around a number: that of all scripts, but of the basic controls only the usual. -/
def isPadding (c : Char) : Bool :=
  if c.toNat < 0x80 then 9 ≤ c.toNat && c.toNat ≤ 13 || c = ' ' else Text.isBlank c

def trimPadding (text : Text) : Text := Text.trimBy isPadding text

/-- The most digits that an integer in text may have. -/
def digitLimit : Nat := 4300

inductive Fault where
  | malformed
  /-- More digits than the limit. -/
  | tooLong (digits : Nat)
  deriving DecidableEq

/-- The digits at the start, a single underscore between two of them skipped. -/
def takeDigits : Text → List Nat × Text
  | [] => ([], [])
  | c :: rest =>
    match Text.digitValue? c with
    | none => ([], c :: rest)
    | some d =>
      match rest with
      | '_' :: next :: after =>
        if (Text.digitValue? next).isSome then
          let (ds, rest) := takeDigits (next :: after)
          (d :: ds, rest)
        else ([d], '_' :: next :: after)
      | rest =>
        let (ds, rest) := takeDigits rest
        (d :: ds, rest)

def ofDigits (digits : List Nat) : Nat := digits.foldl (fun n d => 10 * n + d) 0

/-- The sign at the start, whether it is a minus, and what follows. -/
def takeSign : Text → Bool × Text
  | '-' :: rest => (true, rest)
  | '+' :: rest => (false, rest)
  | text => (false, text)

def signed (negative : Bool) (n : Nat) : Int := if negative then -n else n

/-- An integer in decimal digits. -/
def readInt (text : Text) : Except Fault Int :=
  let (negative, text) := takeSign (trimPadding text)
  let (digits, rest) := takeDigits text
  if digits = [] || rest.head? = some '_' then .error .malformed
  else if digitLimit < digits.length then .error (.tooLong digits.length)
  else if rest ≠ [] then .error .malformed
  else .ok (signed negative (ofDigits digits))

/-- The exponent at the start: the mark, a sign and digits. -/
def takeExponent (text : Text) : Option (Int × Text) :=
  match text with
  | [] => some (0, [])
  | c :: rest =>
    if c = 'e' || c = 'E' then
      let (negative, rest) := takeSign rest
      match takeDigits rest with
      | ([], _) => none
      | (digits, rest) => some (signed negative (ofDigits digits), rest)
    else some (0, text)

/-- The digits after a point, if there is one. -/
def takeFraction : Text → List Nat × Text
  | '.' :: rest => takeDigits rest
  | text => ([], text)

/-- A number with an optional fraction and exponent, without a sign. -/
def readMagnitude? (negative : Bool) (text : Text) : Option Binary64 :=
  let (whole, rest) := takeDigits text
  let (fraction, rest) := takeFraction rest
  if whole = [] && fraction = [] then none
  else match takeExponent rest with
    | some (exponent, []) =>
      some (.ofDecimal negative (ofDigits (whole ++ fraction)) (exponent - fraction.length))
    | _ => none

/-- A double in text: a decimal, or a name of an infinity or of what is undefined. -/
def readBinary64? (text : Text) : Option Binary64 :=
  let (negative, text) := takeSign (trimPadding text)
  let name := text.map Text.lowerAscii
  if name = "inf" || name = "infinity" then some (.infinite negative)
  else if name = "nan" then some .undefined
  else readMagnitude? negative text

end TypedCatalog.Number
