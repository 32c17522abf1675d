import TypedCatalog.Fault
import TypedCatalog.Number.Reader

/-! What can be asked of a value whose kind is not known: its text, its members, its items, the
number it stands for. -/
namespace TypedCatalog.Value

/-- The text of a value. Integers of too many digits cannot be written. -/
def text (value : Value) : Except Fault Text :=
  if value.isWritable then .ok value.shown else .error (.content .unwritable)

/-- Whether a text is a key, an item or a part of a value. -/
def hasMember (name : Text) : Value → Except Fault Bool
  | dict entries => .ok (lookup? name entries).isSome
  | list items | tuple items | set items => .ok (items.any (sameKey (str name)))
  | str text => .ok (Text.occursIn name text)
  | _ => .error (.misuse .unsupported)

/-- The value under a key; only mappings have keys. -/
def member (name : Text) : Value → Except Fault Value
  | dict entries =>
    match lookup? name entries with
    | some value => .ok value
    | none => .error (.misuse .missingKey)
  | _ => .error (.misuse .unsupported)

/-- The value under the first of several names that is held and not null. -/
def pick (data : Value) : List Text → Except Fault (Option Value)
  | [] => .ok none
  | name :: names =>
    match data.hasMember name with
    | .error fault => .error fault
    | .ok false => pick data names
    | .ok true =>
      match data.member name with
      | .error fault => .error fault
      | .ok null => pick data names
      | .ok value => .ok (some value)

/-- The entries of a mapping. -/
def entries (data : Value) : Except Fault Entries :=
  match data with
  | dict entries => .ok entries
  | _ => .error (.misuse .noMember)

/-- The items that a value runs through: of text the characters, of a mapping the keys. -/
def items : Value → Except Fault (List Value)
  | list items | tuple items | set items => .ok items
  | dict entries => .ok (entries.map (·.1))
  | str text => .ok (text.map fun c => str [c])
  | bytes content => .ok (content.map fun byte => int byte.toNat)
  | _ => .error (.misuse .unsupported)

mutual

/-- Whether a value can be a key. -/
def isHashable : Value → Bool
  | list _ | set _ | dict _ => false
  | tuple items => areHashable items
  | _ => true

def areHashable : List Value → Bool
  | [] => true
  | item :: items => isHashable item && areHashable items

end

/-- Entries from items that are pairs of a key and a value; `place` counts the items before. -/
def entriesOfPairs (place : Nat) (held : Entries) : List Value → Except Fault Entries
  | [] => .ok held
  | pair :: pairs =>
    match pair.items with
    | .error fault => .error fault
    | .ok [key, value] =>
      if key.isHashable then entriesOfPairs (place + 1) (put held key value) pairs
      else .error (.misuse .unsupported)
    | .ok parts => .error (.content (.pairLength place parts.length))

/-- The entries of a mapping, or those that a sequence of pairs makes. -/
def toEntries : Value → Except Fault Entries
  | dict entries => .ok entries
  | value =>
    match value.items with
    | .error fault => .error fault
    | .ok pairs => entriesOfPairs 0 [] pairs

/-- The first item of a value that is not empty. -/
def first : Value → Except Fault Value
  | list (item :: _) | tuple (item :: _) => .ok item
  | str (c :: _) => .ok (str [c])
  | dict _ => .error (.misuse .missingKey)
  | list [] | tuple [] | str [] => .error (.misuse .missingItem)
  | _ => .error (.misuse .unsupported)

/-- The value, or another one if it does not count as present. -/
def orElse (value other : Value) : Value := if value.isTruthy then value else other

/-- The double that a value stands for. -/
def toBinary64 : Value → Except Fault Binary64
  | float x => .ok x
  | bool b => ofWhole b.toInt
  | int n => ofWhole n
  | str text =>
    match Number.readBinary64? text with
    | some x => .ok x
    | none => .error (.content (.decimal text))
  | _ => .error (.misuse .unsupported)
where
  ofWhole (n : Int) : Except Fault Binary64 :=
    match Binary64.ofInt? n with
    | some x => .ok x
    | none => .error (.misuse .overflow)

/-- The integer in a text. -/
def integerIn (text : Text) : Except Fault Int :=
  match Number.readInt text with
  | .ok n => .ok n
  | .error .malformed => .error (.content (.integer 10 text))
  | .error (.tooLong digits) => .error (.content (.tooLong digits))

/-- The integer that a value stands for; of a double the whole part. -/
def toInteger : Value → Except Fault Int
  | int n => .ok n
  | bool b => .ok b.toInt
  | float .undefined => .error (.content .undefinedWhole)
  | float x =>
    match x.truncate? with
    | some n => .ok n
    | none => .error (.misuse .overflow)
  | str text => integerIn text
  | _ => .error (.misuse .unsupported)

end TypedCatalog.Value
