import TypedCatalog.Number.Binary64
import TypedCatalog.Value.Calendar

/-! Decoded data of any shape, as documents and services deliver it. Mappings keep the order in
which their keys first came. -/
namespace TypedCatalog

inductive Value where
  | null
  | bool (b : Bool)
  | int (n : Int)
  | float (x : Binary64)
  | str (text : Text)
  | bytes (content : List UInt8)
  | date (day : Date)
  | timestamp (moment : Timestamp)
  | list (items : List Value)
  | tuple (items : List Value)
  | set (items : List Value)
  | dict (entries : List (Value × Value))
  deriving Inhabited

namespace Value

/-- The entries of a mapping in order. -/
abbrev Entries := List (Value × Value)

def ofText (text : String) : Value := str text.toList

/-- A mapping from text. -/
def ofFields (fields : List (Text × Value)) : Value :=
  dict (fields.map fun (name, value) => (str name, value))

def isNull : Value → Bool
  | null => true
  | _ => false

def isText : Value → Bool
  | str _ => true
  | _ => false

def isDict : Value → Bool
  | dict _ => true
  | _ => false

/-- Whether a value counts as present: zero, the empty and null do not. -/
def isTruthy : Value → Bool
  | null => false
  | bool b => b
  | int n => n ≠ 0
  | float x => !x.isZero
  | str text => text ≠ []
  | bytes bs => bs ≠ []
  | date _ => true
  | timestamp _ => true
  | list items => !items.isEmpty
  | tuple items => !items.isEmpty
  | set items => !items.isEmpty
  | dict entries => !entries.isEmpty

/-- Whether two values are one key. Numbers are compared as numbers, whatever their kind. -/
def sameKey : Value → Value → Bool
  | null, null => true
  | str a, str b => a = b
  | bytes a, bytes b => a = b
  | date a, date b => a = b
  | timestamp a, timestamp b => a = b
  | bool a, bool b => a = b
  | bool a, int n | int n, bool a => n = a.toInt
  | int a, int b => a = b
  | float x, float y => x.sameNumber y
  | int n, float x | float x, int n => x.sameInt n
  | bool a, float x | float x, bool a => x.sameInt a.toInt
  | _, _ => false

/-- Writes an entry: a key that is held keeps its place. -/
def put (entries : Entries) (key value : Value) : Entries :=
  match entries with
  | [] => [(key, value)]
  | (k, v) :: rest => if k.sameKey key then (k, value) :: rest else (k, v) :: put rest key value

/-- The mapping of entries written one after another. -/
def ofEntries (entries : Entries) : Entries :=
  entries.foldl (fun held (key, value) => put held key value) []

/-- The value under a text key. -/
def lookup? (key : Text) : Entries → Option Value
  | [] => none
  | (str k, v) :: rest => if k = key then some v else lookup? key rest
  | _ :: rest => lookup? key rest

end Value
end TypedCatalog
