import TypedCatalog.SqlType
import TypedCatalog.Value.Access

/-! Values of a response in the shape of their declared types. Null stays null, and what does not
fit keeps its nearest form. -/
namespace TypedCatalog

/-- The shape that a declared type asks for. -/
inductive Target where
  | number
  | boolean
  | string
  | json
  | array (item : Target)
  /-- Values stay as they are. -/
  | other
  deriving DecidableEq

namespace Target

def scalar (name : Text) : Target :=
  if name = SqlType.numberType then number
  else if name = SqlType.booleanType then boolean
  else if name = SqlType.stringType then string
  else if name = SqlType.jsonType then json
  else other

/-- The target of a declared type whose characters come last first. -/
def ofReversed : Text → Target
  | ']' :: '[' :: rest => array (ofReversed rest)
  | name => scalar name.reverse

/-- The target of a declared type. -/
def ofName (name : Text) : Target := ofReversed name.reverse

end Target

namespace Conversion

def trueWords : List Text := ["true", "t", "1", "yes", "y", "on"]
def falseWords : List Text := ["false", "f", "0", "no", "n", "off", []]

/-- The number in a text, and what is undefined if there is none. -/
def numberIn (text : Text) : Value :=
  let text := Text.trim text
  match Number.readInt text with
  | .ok n => .int n
  | .error _ => .float ((Number.readBinary64? text).getD .undefined)

def toNumber : Value → Except Fault Value
  | .bool b => .ok (.int b.toInt)
  | .int n => .ok (.int n)
  | .float x => .ok (.float x)
  | value => value.text.map numberIn

def toBoolean : Value → Bool
  | .str text =>
    let word := Text.lower (Text.trim text)
    if trueWords.contains word then true
    else if falseWords.contains word then false
    else text ≠ []
  | value => value.isTruthy

/-- What a JSON text holds; `fallback` if it is not one. -/
def decoded (fallback : Value) (text : Text) : Except Fault Value :=
  match Json.read text with
  | .ok value => .ok value
  | .error (.problem ..) => .ok fallback
  | .error (.tooLong digits) => .error (.content (.tooLong digits))

/-- The texts of an array literal of the database, `{a,b,c}`. -/
def literalItems (text : Text) : List Value :=
  match text with
  | '\x7b' :: rest =>
    match Text.before? "\x7d" rest with
    | none | some [] => []
    | some inner => (Text.splitOn ',' inner).map fun item => .str (Text.trim item)
  | _ => []

/-- The items of a value that is to become a list. A text holds them as JSON or as a literal. -/
def itemsOf : Value → Except Fault (List Value)
  | .list items | .tuple items => .ok items
  | .str text =>
    match decoded .null text with
    | .error fault => .error fault
    | .ok (.list items) => .ok items
    | .ok _ => .ok (literalItems text)
  | _ => .ok []

/-- A value in the shape of a target. -/
def convert : Target → Value → Except Fault Value
  | _, .null => .ok .null
  | .number, value => toNumber value
  | .boolean, value => .ok (.bool (toBoolean value))
  | .string, value => value.text.map .str
  | .json, .str text => decoded (.dict []) text
  | .array item, value =>
    match itemsOf value with
    | .error fault => .error fault
    | .ok items => (items.mapM (convert item)).map .list
  | .json, value | .other, value => .ok value

/-- A value in the shape of a declared type, which is to be text unless the value is null. -/
def convertTo (declared value : Value) : Except Fault Value :=
  match declared, value with
  | _, .null => .ok .null
  | .str name, value => convert (.ofName name) value
  | _, _ => .error (.misuse .noMember)

/-- The fields of a row that have a declared type, in the order of the types. -/
def convertFields (row : Value) : Value.Entries → Except Fault Value.Entries
  | [] => .ok []
  | (key, declared) :: rest => do
    let name := key.shown
    if ← row.hasMember name then
      let value ← convertTo declared (← row.member name)
      return (key, value) :: (← convertFields row rest)
    else convertFields row rest

/-- A response row by the declared types of its fields. -/
def convertRow (row types : Value) : Except Fault Value := do
  return .dict (← convertFields row (← types.entries))

end Conversion
end TypedCatalog
