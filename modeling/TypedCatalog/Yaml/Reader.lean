import TypedCatalog.Text.Case
import TypedCatalog.Value.Access
import TypedCatalog.Yaml.Node

/-! Values from YAML nodes. A collection is filled only after what surrounds it, so that of several
faults the one nearest to the root counts, and of those the first. -/
namespace TypedCatalog.Yaml

/-- A digit of a number with a radix. -/
def radixDigit? (radix : Nat) (c : Char) : Option Nat :=
  let digit := match Text.digitValue? c with
    | some digit => some digit
    | none => Text.hexValue? c
  digit.filter (· < radix)

/-- The mark that may stand before a number with a radix. -/
def radixMark (radix : Nat) : Char :=
  if radix = 2 then 'b' else if radix = 8 then 'o' else 'x'

def radixNumber? (radix : Nat) : Text → Option Nat
  | [] => none
  | digits =>
    digits.foldl (fun n? c => n?.bind fun n => (radixDigit? radix c).map (radix * n + ·)) (some 0)

/-- An integer with a radix of two, eight or sixteen. -/
def readRadix (radix : Nat) (text : Text) : Except Fault Int :=
  let (negative, digits) := Number.takeSign (Number.trimPadding text)
  let digits := match digits with
    | '0' :: mark :: rest => if Text.lowerAscii mark = radixMark radix then rest else digits
    | _ => digits
  match radixNumber? radix digits with
  | some n => .ok (Number.signed negative n)
  | none => .error (.content (.integer radix text))

def dropMarks (text : Text) : Text := text.filter (· ≠ '_')

/-- A number without its sign, and whether that is a minus. -/
def splitSign : Text → Except Fault (Bool × Text)
  | [] => .error (.misuse .missingItem)
  | '-' :: rest => .ok (true, rest)
  | '+' :: rest => .ok (false, rest)
  | digits => .ok (false, digits)

/-- The value of digits in base sixty, the last digit first. -/
def sixties : List Int → Int
  | [] => 0
  | digit :: digits => digit + 60 * sixties digits

def readInt (text : Text) : Except Fault Int := do
  let (negative, digits) ← splitSign (dropMarks text)
  let sign := fun (n : Int) => if negative then -n else n
  match digits with
  | [] => throw (.misuse .missingItem)
  | ['0'] => return 0
  | '0' :: 'b' :: rest => return sign (← readRadix 2 rest)
  | '0' :: 'x' :: rest => return sign (← readRadix 16 rest)
  | '0' :: _ => return sign (← readRadix 8 digits)
  | _ =>
    if ':' ∈ digits then
      let parts ← (Text.splitOn ':' digits).mapM Value.integerIn
      return sign (sixties parts.reverse)
    else return sign (← Value.integerIn digits)

/-- The sum of digits in base sixty, the last digit first; `scale` is the weight of that one. -/
def sixtiesFrom (scale : Int) (sum : Binary64) : List Binary64 → Except Fault Binary64
  | [] => .ok sum
  | digit :: digits => do
    let weight ← Value.toBinary64.ofWhole scale
    sixtiesFrom (60 * scale) (sum.add (digit.mul weight)) digits

def readFloat (text : Text) : Except Fault Binary64 := do
  let (negative, digits) ← splitSign (Text.lower (dropMarks text))
  let sign := fun (x : Binary64) => if negative then x.neg else x
  let decimal := fun (text : Text) => Value.toBinary64 (.str text)
  if digits = ".inf".toList then return .infinite negative
  else if digits = ".nan".toList then return .undefined
  else if ':' ∈ digits then
    let parts ← (Text.splitOn ':' digits).mapM decimal
    return sign (← sixtiesFrom 1 .zero parts.reverse)
  else return sign (← decimal digits)

def trueWords : List Text := ["yes", "true", "on"]
def falseWords : List Text := ["no", "false", "off"]

def readBool (text : Text) : Except Fault Bool :=
  let word := Text.lower text
  if trueWords.contains word then .ok true
  else if falseWords.contains word then .ok false
  else .error (.misuse .missingKey)

def numberOf (digits : Text) : Nat := Number.ofDigits (digits.map fun d => d.toNat - 48)

/-- The digits of a fraction as millionths; further digits are dropped. -/
def microseconds (digits : Text) : Nat :=
  let digits := digits.take 6
  numberOf (digits ++ List.replicate (6 - digits.length) '0')

def offsetMinutes : Option (Char × Text × Text) → Int
  | none => 0
  | some (sign, hour, minute) =>
    let minutes : Int := 60 * numberOf hour + numberOf minute
    if sign = '-' then -minutes else minutes

def checked {α : Type} (wrap : α → Value) : Except CalendarFault α → Except Fault Value
  | .ok x => .ok (wrap x)
  | .error fault => .error (.content (.calendar fault))

def readTime (text : Text) : Except Fault Value :=
  match TimeParts.ofText? (Tag.dropLineEnd text) with
  | none => .error (.misuse .noMember)
  | some parts =>
    let date : Date := ⟨numberOf parts.year, numberOf parts.month, numberOf parts.day⟩
    match parts.time with
    | none => checked .date date.check
    | some (hour, minute, second, fraction) =>
      checked .timestamp <| Timestamp.check {
        date, hour := numberOf hour, minute := numberOf minute, second := numberOf second
        microsecond := microseconds fraction
        offset := parts.zone.map offsetMinutes }

def sextet? (c : Char) : Option Nat :=
  if Text.isUpper c then some (c.toNat - 65)
  else if Text.isLower c then some (c.toNat - 71)
  else if Text.isDigit c then some (c.toNat + 4)
  else if c = '+' then some 62
  else if c = '/' then some 63
  else none

/-- Bytes from groups of four characters; `place` counts the characters of the open group, `held` is
what is left of them, and `pads` counts the padding in a row. Other characters are skipped. -/
def readBase64 (place held pads : Nat) : Text → Step (List UInt8)
  | [] => if place = 0 then .ok [] else stop .tag
  | c :: rest =>
    if c = '=' then
      if 2 ≤ place && 4 ≤ place + (pads + 1) then .ok []
      else readBase64 place held (if 2 ≤ place then pads + 1 else pads) rest
    else match sextet? c with
      | none => readBase64 place held pads rest
      | some n =>
        match place with
        | 0 => readBase64 1 n 0 rest
        | 1 => (readBase64 2 (n % 16) 0 rest).map ((held * 4 + n / 16).toUInt8 :: ·)
        | 2 => (readBase64 3 (n % 4) 0 rest).map ((held * 16 + n / 4).toUInt8 :: ·)
        | _ => (readBase64 0 0 0 rest).map ((held * 64 + n).toUInt8 :: ·)

def readBinary (text : Text) : Step Value :=
  if text.all fun c => c.toNat < 128 then (readBase64 0 0 0 text).map .bytes else stop .tag

def lift (result : Except Fault Value) : Step Value :=
  match result with
  | .ok value => .ok value
  | .error fault => .error (.fault fault)

/-- The value of a text whose tag is that of a scalar. -/
def readScalar (tag : Tag) (text : Text) : Step Value :=
  match tag with
  | .null => .ok .null
  | .bool => lift ((readBool text).map .bool)
  | .int => lift ((readInt text).map .int)
  | .float => lift ((readFloat text).map .float)
  | .binary => readBinary text
  | .timestamp => lift (readTime text)
  | .text => .ok (.str text)
  | _ => stop .tag

/-- What stops the building of a value, with its distance from the root. -/
abbrev Built (α : Type) := Except (Nat × Stop) α

/-- Both results, or what stops nearer to the root; at one distance the first. -/
def both {α β : Type} (a : Built α) (b : Built β) : Built (α × β) :=
  match a, b with
  | .ok a, .ok b => .ok (a, b)
  | .error (m, s), .error (n, t) => if n < m then .error (n, t) else .error (m, s)
  | .error s, .ok _ => .error s
  | .ok _, .error t => .error t

def all {α : Type} : List (Built α) → Built (List α)
  | [] => .ok []
  | a :: rest => (both a (all rest)).map fun (x, xs) => x :: xs

def isScalarTag : Tag → Bool
  | .null | .bool | .int | .float | .binary | .timestamp | .text => true
  | _ => false

def isCollectionTag : Tag → Bool
  | .orderedMapping | .pairs | .set | .sequence | .mapping => true
  | _ => false

namespace Node

def tag : Node → Tag
  | scalar tag _ => tag
  | sequence tag _ => tag
  | mapping tag _ => tag

/-- The scalar that a node stands for: its own text, or that of the entry that stands in for it. -/
def textOf : (fuel : Nat) → Node → Step Text
  | 0, _ => stop .tag
  | fuel + 1, node =>
    match node with
    | scalar _ text => .ok text
    | sequence .. => stop .tag
    | mapping _ entries =>
      match entries.find? fun entry => entry.1.tag = .standIn with
      | some (_, value) => textOf fuel value
      | none => stop .tag

/-- A key that stands in for a scalar is a text elsewhere. -/
def asKey : Node → Node
  | scalar .standIn text => scalar .text text
  | node => node

/-- The entries of a mapping, those of merged mappings first. -/
def mergedEntries : (fuel : Nat) → List (Node × Node) → Step (List (Node × Node))
  | 0, _ => .ok []
  | fuel + 1, entries => do
    let held := fun (node : Node) => match node with
      | mapping _ entries => mergedEntries fuel entries
      | _ => stop .tag
    let merged ← entries.mapM fun (key, value) =>
      if key.tag ≠ .merge then pure []
      else match value with
        | sequence _ items => do return (← items.mapM held).reverse.flatten
        | value => held value
    let own := (entries.filter fun entry => entry.1.tag ≠ .merge).map fun (key, value) =>
      (key.asKey, value)
    return merged.flatten ++ own

/-- A key, which is not to be a collection, with its value. -/
def builtEntry (level : Nat) (key : Node) (built value : Built Value) : Built (Value × Value) :=
  let usable : Built Unit :=
    if isCollectionTag key.tag then .error (level, .problem .key) else .ok ()
  both ((both built usable).map (·.1)) value

/-- The value of a node at a distance from the root. -/
def build : (fuel : Nat) → (level : Nat) → Node → Built Value
  | 0, level, _ => .error (level, .problem .tag)
  | fuel + 1, level, node =>
    let inner := build fuel (level + 1)
    let entries (held : List (Node × Node)) : Built Value.Entries :=
      match mergedEntries (fuel + 1) held with
      | .error stop => .error (level + 1, stop)
      | .ok entries =>
        let built := entries.map fun (key, value) =>
          builtEntry (level + 1) key (inner key) (inner value)
        (all built).map Value.ofEntries
    let pair (item : Node) : Built Value :=
      match item with
      | mapping _ [(key, value)] =>
        (both (inner key) (inner value)).map fun (key, value) => .tuple [key, value]
      | _ => .error (level + 1, .problem .tag)
    if isScalarTag node.tag then
      match textOf (fuel + 1) node >>= readScalar node.tag with
      | .ok value => .ok value
      | .error stop => .error (level, stop)
    else match node.tag, node with
      | .sequence, sequence _ items => (all (items.map inner)).map .list
      | .mapping, mapping _ held => (entries held).map .dict
      | .set, mapping _ held => (entries held).map fun entries => .set (entries.map (·.1))
      | .orderedMapping, sequence _ items => (all (items.map pair)).map .list
      | .pairs, sequence _ items => (all (items.map pair)).map .list
      | tag, _ => .error (if isCollectionTag tag then level + 1 else level, .problem .tag)

/-- The value of a document. -/
def toValue (node : Node) : Step Value :=
  match build (node.depth + 2) 0 node with
  | .ok value => .ok value
  | .error (_, stop) => .error stop

end Node

/-- The value that a text holds; null if it holds no document. -/
def read (text : Text) : Step Value :=
  match Node.ofText? text with
  | .error stop => .error stop
  | .ok none => .ok .null
  | .ok (some node) => node.toValue

end TypedCatalog.Yaml
