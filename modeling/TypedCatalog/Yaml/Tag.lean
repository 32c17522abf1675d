import TypedCatalog.Text.Basic

/-! The kinds of YAML nodes, and the kind that a plain scalar has by its text alone. -/
namespace TypedCatalog.Yaml

inductive Tag where
  | null
  | bool
  | int
  | float
  | binary
  | timestamp
  | orderedMapping
  | pairs
  | set
  | text
  | sequence
  | mapping
  /-- The key whose mappings are merged into the one that holds it. -/
  | merge
  /-- The key of the scalar that a mapping can stand for. -/
  | standIn
  | unknown
  deriving DecidableEq

namespace Tag

def names : List (Text × Tag) :=
  [("null", null), ("bool", bool), ("int", int), ("float", float), ("binary", binary),
    ("timestamp", timestamp), ("omap", orderedMapping), ("pairs", pairs), ("set", set),
    ("str", text), ("seq", sequence), ("map", mapping), ("merge", merge), ("value", standIn)]

/-- The start of the names of the usual tags. -/
def space : Text := "tag:yaml.org,2002:"

def ofName (name : Text) : Tag :=
  match Text.after? space name with
  | none => unknown
  | some name => ((names.find? fun entry => entry.1 == name).map (·.2)).getD unknown

/-- Whether a text is a character and characters of a class after it. -/
def isRun (first more : Char → Bool) : Text → Bool
  | [] => false
  | c :: rest => first c && rest.all more

def digitOrMark (c : Char) : Bool := Text.isDigit c || c = '_'

def dropSign : Text → Text
  | c :: rest => if c = '-' || c = '+' then rest else c :: rest
  | [] => []

/-- Whether a part of a number in base sixty has one or two digits and is below sixty. -/
def isSixtieth : Text → Bool
  | [a] => Text.isDigit a
  | [a, b] => Text.isDigit a && a ≤ '5' && Text.isDigit b
  | _ => false

/-- Whether a text is a number in base sixty, of two parts at least. -/
def isSixties (first : Char → Bool) (text : Text) : Bool :=
  match Text.splitOn ':' text with
  | whole :: part :: parts => isRun first digitOrMark whole && (part :: parts).all isSixtieth
  | _ => false

def isNonZero (c : Char) : Bool := '1' ≤ c && c ≤ '9'

def isInt (text : Text) : Bool :=
  let text := dropSign text
  match text with
  | ['0'] => true
  | '0' :: 'b' :: digits => isRun (· ∈ ['0', '1', '_']) (· ∈ ['0', '1', '_']) digits
  | '0' :: 'x' :: digits =>
    let isHex := fun c => (Text.hexValue? c).isSome || c = '_'
    isRun isHex isHex digits
  | '0' :: digits =>
    let isOctal := fun c => ('0' ≤ c && c ≤ '7') || c = '_'
    isRun isOctal isOctal digits
  | text => isRun isNonZero digitOrMark text || isSixties isNonZero text

def isExponent : Text → Bool
  | mark :: sign :: digits =>
    (mark = 'e' || mark = 'E') && (sign = '-' || sign = '+') &&
      isRun Text.isDigit Text.isDigit digits
  | [] => true
  | _ => false

/-- Digits after a point, and an exponent. -/
def isFraction (text : Text) : Bool := isExponent (text.dropWhile digitOrMark)

def infinities : List Text := [".inf", ".Inf", ".INF"]
def undefineds : List Text := [".nan", ".NaN", ".NAN"]

def isFloat (text : Text) : Bool :=
  let magnitude := dropSign text
  undefineds.contains text || infinities.contains magnitude ||
  match Text.cut? '.' text with
  | some ([], c :: rest) => Text.isDigit c && isFraction rest
  | _ =>
    match Text.cut? '.' magnitude with
    | some (whole, rest) =>
      (isRun Text.isDigit digitOrMark whole && isFraction rest) ||
        (isSixties Text.isDigit whole && rest.all digitOrMark)
    | none => false

def nullWords : List Text := ["~", "null", "Null", "NULL", []]

def boolWords : List Text :=
  ["yes", "Yes", "YES", "no", "No", "NO", "true", "True", "TRUE", "false", "False", "FALSE",
    "on", "On", "ON", "off", "Off", "OFF"]

end Tag

/-- The parts of a day or a moment as written. -/
structure TimeParts where
  year : Text
  month : Text
  day : Text
  /-- Hour, minute, second and the digits of the fraction. -/
  time : Option (Text × Text × Text × Text)
  /-- Sign, hour and minute of an offset; a lone Z has none of them. -/
  zone : Option (Option (Char × Text × Text))

namespace TimeParts

/-- A number of digits, at least one, at the start. -/
def digits? (least most : Nat) (text : Text) : Option (Text × Text) :=
  let digits := (text.takeWhile Text.isDigit).take most
  if digits.length < least then none else some (digits, text.drop digits.length)

def char? (char : Char) : Text → Option Text
  | c :: rest => if c = char then some rest else none
  | [] => none

def isSpace (c : Char) : Bool := c = ' ' || c = '\t'

/-- What parts the day from the time of day. -/
def gap? : Text → Option Text
  | c :: rest =>
    if c = 'T' || c = 't' then some rest
    else if isSpace c then some (rest.dropWhile isSpace)
    else none
  | [] => none

/-- An offset at the end: none, a Z, or a sign with an hour and perhaps a minute. -/
def zone? (text : Text) : Option (Option (Option (Char × Text × Text))) :=
  match text, text.dropWhile isSpace with
  | [], _ => some none
  | _, ['Z'] => some (some none)
  | _, sign :: rest =>
    if sign = '+' || sign = '-' then do
      let (hour, rest) ← digits? 1 2 rest
      match rest with
      | [] => return some (some (sign, hour, []))
      | ':' :: rest =>
        let (minute, rest) ← digits? 2 2 rest
        if rest = [] then return some (some (sign, hour, minute)) else none
      | _ => none
    else none
  | _, [] => none

def fraction : Text → Text × Text
  | '.' :: rest => (rest.takeWhile Text.isDigit, rest.dropWhile Text.isDigit)
  | text => ([], text)

def ofText? (text : Text) : Option TimeParts := do
  let (year, rest) ← digits? 4 4 text
  let (month, rest) ← digits? 1 2 (← char? '-' rest)
  let (day, rest) ← digits? 1 2 (← char? '-' rest)
  if rest = [] then return ⟨year, month, day, none, none⟩
  let (hour, rest) ← digits? 1 2 (← gap? rest)
  let (minute, rest) ← digits? 2 2 (← char? ':' rest)
  let (second, rest) ← digits? 2 2 (← char? ':' rest)
  let (fraction, rest) := fraction rest
  let zone ← zone? rest
  return ⟨year, month, day, some (hour, minute, second, fraction), zone⟩

end TimeParts

namespace Tag

/-- A day alone must have all its digits to be one. -/
def isTimestamp (text : Text) : Bool :=
  match TimeParts.ofText? text with
  | none => false
  | some parts => parts.time.isSome || text.length = 10

/-- A line end at the end of a text does not count for its kind. -/
def dropLineEnd (text : Text) : Text := (Text.before? ['\n'] text).getD text

/-- The kind of a scalar that has no tag. -/
def ofPlain (text : Text) : Tag :=
  if text = [] then null
  else
    let word := dropLineEnd text
    if word = [] then Tag.text
    else if boolWords.contains word then bool
    else if isFloat word then float
    else if isInt word then int
    else if word = ['<', '<'] then merge
    else if nullWords.contains word then null
    else if isTimestamp word then timestamp
    else if word = ['='] then standIn
    else if word = ['!'] || word = ['&'] || word = ['*'] then unknown
    else Tag.text

end Tag
end TypedCatalog.Yaml
