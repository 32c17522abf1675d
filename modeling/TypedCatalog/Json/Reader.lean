import TypedCatalog.Number.Reader
import TypedCatalog.Value.Basic

/-! Values from JSON text. Beyond the standard the names of infinities and of what is undefined are
numbers. Of entries with one name the last counts, at the place of the first. -/
namespace TypedCatalog.Json

inductive Problem where
  | value
  | name
  | colon
  | comma
  | control
  | escape
  | unicodeEscape
  | unterminated
  | extra
  | byteOrderMark
  deriving DecidableEq

/-- What stops a reader: a problem, with the count of characters from there to the end, or an
integer of too many digits. -/
inductive Stop where
  | problem (problem : Problem) (left : Nat)
  | tooLong (digits : Nat)
  deriving DecidableEq

abbrev Step (α : Type) := Except Stop (α × Text)

def isSpace (c : Char) : Bool := c = ' ' || c = '\t' || c = '\n' || c = '\r'

def skipSpace (text : Text) : Text := text.dropWhile isSpace

/-- The character behind a letter that follows a backslash. -/
def escapeLetter? : Char → Option Char
  | '"' => some '"'
  | '\\' => some '\\'
  | '/' => some '/'
  | 'b' => some '\x08'
  | 'f' => some '\x0c'
  | 'n' => some '\n'
  | 'r' => some '\r'
  | 't' => some '\t'
  | _ => none

def hexUnit? (a b c d : Char) : Option Nat := do
  let a ← Text.hexValue? a
  let b ← Text.hexValue? b
  let c ← Text.hexValue? c
  let d ← Text.hexValue? d
  return ((a * 16 + b) * 16 + c) * 16 + d

/-- The code units up to the closing quote; `opened` is the count of characters from the opening
quote to the end. -/
def readUnits (opened : Nat) : Text → Step (List Nat)
  | [] => .error (.problem .unterminated opened)
  | '"' :: rest => .ok ([], rest)
  | '\\' :: rest =>
    match rest with
    | [] => .error (.problem .unterminated opened)
    | 'u' :: a :: b :: c :: d :: next :: rest =>
      match hexUnit? a b c d with
      | none => .error (.problem .unicodeEscape (rest.length + 6))
      | some unit =>
        match readUnits opened (next :: rest) with
        | .error stop => .error stop
        | .ok (units, rest) => .ok (unit :: units, rest)
    | 'u' :: rest => .error (.problem .unicodeEscape (rest.length + 1))
    | letter :: rest =>
      match escapeLetter? letter with
      | none => .error (.problem .escape (rest.length + 2))
      | some c =>
        match readUnits opened rest with
        | .error stop => .error stop
        | .ok (units, rest) => .ok (c.toNat :: units, rest)
  | c :: rest =>
    if c.toNat < 0x20 then .error (.problem .control (rest.length + 1))
    else match readUnits opened rest with
      | .error stop => .error stop
      | .ok (units, rest) => .ok (c.toNat :: units, rest)

def isHighUnit (unit : Nat) : Bool := 0xd800 ≤ unit && unit < 0xdc00

def isLowUnit (unit : Nat) : Bool := 0xdc00 ≤ unit && unit < 0xe000

/-- A code unit as a character; half a pair has none and becomes the replacement character. -/
def unitChar (unit : Nat) : Char :=
  if unit.isValidChar then Char.ofNat unit else Char.ofNat 0xfffd

/-- Characters from code units, the two halves of a pair joined. -/
def joinUnits : List Nat → Text
  | [] => []
  | [unit] => [unitChar unit]
  | high :: low :: rest =>
    if isHighUnit high && isLowUnit low then
      Char.ofNat (0x10000 + (high - 0xd800) * 0x400 + (low - 0xdc00)) :: joinUnits rest
    else unitChar high :: joinUnits (low :: rest)

/-- The text up to the closing quote. -/
def readText (text : Text) : Step Text :=
  match readUnits (text.length + 1) text with
  | .error stop => .error stop
  | .ok (units, rest) => .ok (joinUnits units, rest)

/-- The digits at the start. -/
def takeDigits (text : Text) : Text × Text :=
  (text.takeWhile Text.isDigit, text.dropWhile Text.isDigit)

def digitValues (digits : Text) : List Nat := digits.map fun c => c.toNat - 48

/-- The fraction at the start, if digits follow the point. -/
def takeFraction (text : Text) : Text × Text :=
  match text with
  | '.' :: rest =>
    match takeDigits rest with
    | ([], _) => ([], text)
    | found => found
  | _ => ([], text)

/-- The exponent at the start, if it has digits. -/
def takeExponent (text : Text) : Option Int × Text :=
  match text with
  | [] => (none, text)
  | c :: rest =>
    if c = 'e' || c = 'E' then
      let (negative, rest) := Number.takeSign rest
      match takeDigits rest with
      | ([], _) => (none, text)
      | (digits, rest) =>
        (some (Number.signed negative (Number.ofDigits (digitValues digits))), rest)
    else (none, text)

/-- The whole part: a zero alone, or digits that start with another. -/
def takeWhole (text : Text) : Text × Text :=
  match text with
  | '0' :: rest => (['0'], rest)
  | _ => takeDigits text

/-- A number without its sign; `start` is the count of characters from its sign to the end. -/
def readMagnitude (start : Nat) (negative : Bool) (text : Text) : Step Value :=
  match takeWhole text with
  | ([], _) => .error (.problem .value start)
  | (whole, rest) =>
    let (fraction, rest) := takeFraction rest
    let (exponent, rest) := takeExponent rest
    if fraction = [] && exponent.isNone then
      if Number.digitLimit < whole.length then .error (.tooLong whole.length)
      else .ok (.int (Number.signed negative (Number.ofDigits (digitValues whole))), rest)
    else
      let digits := Number.ofDigits (digitValues (whole ++ fraction))
      .ok (.float (.ofDecimal negative digits (exponent.getD 0 - fraction.length)), rest)

/-- A word that stands for a value. -/
def words : List (Text × Value) :=
  [("null", .null), ("true", .bool true), ("false", .bool false), ("NaN", .float .undefined),
    ("Infinity", .float (.infinite false)), ("-Infinity", .float (.infinite true))]

def readWord? (text : Text) : Option (Value × Text) :=
  words.findSome? fun (word, value) => (Text.after? word text).map (value, ·)

/-- A number or a word. -/
def readScalar (text : Text) : Step Value :=
  match readWord? text with
  | some found => .ok found
  | none =>
    match text with
    | '-' :: rest => readMagnitude text.length true rest
    | _ => readMagnitude text.length false text

mutual

/-- A value at the start of the text. -/
def readValue : (fuel : Nat) → Text → Step Value
  | 0, text => .error (.problem .value text.length)
  | fuel + 1, text =>
    match text with
    | '"' :: rest =>
      match readText rest with
      | .error stop => .error stop
      | .ok (text, rest) => .ok (.str text, rest)
    | '[' :: rest =>
      match skipSpace rest with
      | ']' :: rest => .ok (.list [], rest)
      | rest =>
        match readItems fuel rest with
        | .error stop => .error stop
        | .ok (items, rest) => .ok (.list items, rest)
    | '\x7b' :: rest =>
      match skipSpace rest with
      | '\x7d' :: rest => .ok (.dict [], rest)
      | rest =>
        match readEntries fuel rest with
        | .error stop => .error stop
        | .ok (entries, rest) => .ok (.dict (Value.ofEntries entries), rest)
    | text => readScalar text

/-- Items up to the closing bracket. -/
def readItems : (fuel : Nat) → Text → Step (List Value)
  | 0, text => .error (.problem .value text.length)
  | fuel + 1, text =>
    match readValue fuel text with
    | .error stop => .error stop
    | .ok (item, rest) =>
      match skipSpace rest with
      | ']' :: rest => .ok ([item], rest)
      | ',' :: rest =>
        match readItems fuel (skipSpace rest) with
        | .error stop => .error stop
        | .ok (items, rest) => .ok (item :: items, rest)
      | rest => .error (.problem .comma rest.length)

/-- Entries up to the closing brace. -/
def readEntries : (fuel : Nat) → Text → Step Value.Entries
  | 0, text => .error (.problem .value text.length)
  | fuel + 1, text =>
    match text with
    | '"' :: rest =>
      match readText rest with
      | .error stop => .error stop
      | .ok (name, rest) =>
        match skipSpace rest with
        | ':' :: rest =>
          match readValue fuel (skipSpace rest) with
          | .error stop => .error stop
          | .ok (value, rest) =>
            match skipSpace rest with
            | '\x7d' :: rest => .ok ([(.str name, value)], rest)
            | ',' :: rest =>
              match readEntries fuel (skipSpace rest) with
              | .error stop => .error stop
              | .ok (entries, rest) => .ok ((.str name, value) :: entries, rest)
            | rest => .error (.problem .comma rest.length)
        | rest => .error (.problem .colon rest.length)
    | text => .error (.problem .name text.length)

end

/-- The value that a whole text holds. Every nested reading leaves a character behind, so that the
length of the text bounds their number. -/
def readDocument (text : Text) : Except Stop Value :=
  match text with
  | '\ufeff' :: _ => .error (.problem .byteOrderMark text.length)
  | _ =>
    match readValue (2 * text.length + 1) (skipSpace text) with
    | .error stop => .error stop
    | .ok (value, rest) =>
      match skipSpace rest with
      | [] => .ok value
      | rest => .error (.problem .extra rest.length)

/-- Where a document is at fault: the offset, and the line and column from one. -/
structure Position where
  offset : Nat
  line : Nat
  column : Nat
  deriving DecidableEq

def positionAt (text : Text) (offset : Nat) : Position :=
  let before := text.take offset
  { offset
    line := before.count '\n' + 1
    column := (before.reverse.takeWhile (· ≠ '\n')).length + 1 }

inductive Fault where
  | problem (problem : Problem) (position : Position)
  | tooLong (digits : Nat)
  deriving DecidableEq

def read (text : Text) : Except Fault Value :=
  match readDocument text with
  | .ok value => .ok value
  | .error (.problem problem left) =>
    .error (.problem problem (positionAt text (text.length - left)))
  | .error (.tooLong digits) => .error (.tooLong digits)

def Problem.message : Problem → Text
  | value => "Expecting value"
  | name => "Expecting property name enclosed in double quotes"
  | colon => "Expecting ':' delimiter"
  | comma => "Expecting ',' delimiter"
  | control => "Invalid control character at"
  | escape => "Invalid \\escape"
  | unicodeEscape => "Invalid \\uXXXX escape"
  | unterminated => "Unterminated string starting at"
  | extra => "Extra data"
  | byteOrderMark => "Unexpected UTF-8 BOM (decode using utf-8-sig)"

def Position.text (position : Position) : Text :=
  "line " ++ Text.ofNat position.line ++ " column " ++ Text.ofNat position.column ++ " (char " ++
    Text.ofNat position.offset ++ ")"

end TypedCatalog.Json
