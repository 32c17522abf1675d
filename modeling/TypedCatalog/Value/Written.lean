import TypedCatalog.Number.Reader
import TypedCatalog.Number.Written
import TypedCatalog.Text.Quoted
import TypedCatalog.Value.Basic

/-! Values as they are written. Text stands for itself alone and is quoted inside other values. -/
namespace TypedCatalog.Value

/-- Parts between brackets, with a comma and a space between them. -/
def bracketed (opening closing : Text) (parts : List Text) : Text :=
  opening ++ Text.join ", " parts ++ closing

mutual

/-- The text of a value inside another. -/
def quoted : Value → Text
  | null => "None"
  | bool true => "True"
  | bool false => "False"
  | int n => Text.ofInt n
  | float x => x.text
  | str text => Text.quoted text
  | bytes content => Text.quotedBytes content
  | date day => day.quoted
  | timestamp moment => moment.quoted
  | list items => bracketed "[" "]" (quotedItems items)
  | tuple items => bracketed "(" (if items.length = 1 then ",)" else ")") (quotedItems items)
  | set items => if items.isEmpty then "set()" else bracketed "\x7b" "\x7d" (quotedItems items)
  | dict entries => bracketed "\x7b" "\x7d" (quotedEntries entries)

def quotedItems : List Value → List Text
  | [] => []
  | item :: items => quoted item :: quotedItems items

def quotedEntries : List (Value × Value) → List Text
  | [] => []
  | (key, value) :: entries => (quoted key ++ ": " ++ quoted value) :: quotedEntries entries

end

/-- A value alone, all digits of its integers written. -/
def shown : Value → Text
  | str text => text
  | date day => day.text
  | timestamp moment => moment.text
  | value => quoted value

mutual

/-- Whether no integer in a value has more digits than the integer of a text may have. -/
def isWritable : Value → Bool
  | int n => (Text.ofNat n.natAbs).length ≤ Number.digitLimit
  | list items | tuple items | set items => areWritable items
  | dict entries => areWritableEntries entries
  | _ => true

def areWritable : List Value → Bool
  | [] => true
  | item :: items => isWritable item && areWritable items

def areWritableEntries : List (Value × Value) → Bool
  | [] => true
  | (key, value) :: entries => isWritable key && isWritable value && areWritableEntries entries

end

end TypedCatalog.Value
