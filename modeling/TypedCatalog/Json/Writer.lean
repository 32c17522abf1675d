import TypedCatalog.Number.Written
import TypedCatalog.Value.Basic

/-! JSON text in basic Latin characters only. Everything else inside a string is escaped by its
code units. -/
namespace TypedCatalog.Json

def escapeUnit (unit : Nat) : Text := "\\u" ++ Text.hex 4 unit

/-- The escape of a code point, in two halves beyond the basic plane. -/
def escapeCode (code : Nat) : Text :=
  if code < 0x10000 then escapeUnit code
  else
    escapeUnit (0xd800 + (code - 0x10000) / 0x400) ++ escapeUnit (0xdc00 + (code - 0x10000) % 0x400)

def escapeChar (c : Char) : Text :=
  if c = '"' then "\\\""
  else if c = '\\' then "\\\\"
  else if c = '\n' then "\\n"
  else if c = '\r' then "\\r"
  else if c = '\t' then "\\t"
  else if c = '\x08' then "\\b"
  else if c = '\x0c' then "\\f"
  else if 0x20 ≤ c.toNat && c.toNat ≤ 0x7e then [c]
  else escapeCode c.toNat

/-- Text between double quotes. -/
def literal (text : Text) : Text := '"' :: text.flatMap escapeChar ++ ['"']

def newLine (depth : Nat) : Text := '\n' :: List.replicate (2 * depth) ' '

/-- Parts on lines of their own between brackets. -/
def block (depth : Nat) (opening closing : Char) (parts : List Text) : Text :=
  if parts.isEmpty then [opening, closing]
  else
    opening :: newLine (depth + 1) ++ Text.join (',' :: newLine (depth + 1)) parts ++
      newLine depth ++ [closing]

mutual

/-- The text of a value whose lines are indented by two blanks for each level. -/
def writeAt (depth : Nat) : Value → Text
  | .null => "null"
  | .bool true => "true"
  | .bool false => "false"
  | .int n => Text.ofInt n
  | .float x => x.write Binary64.named
  | .str text => literal text
  | .bytes _ | .date _ | .timestamp _ => "null"
  | .list items | .tuple items | .set items => block depth '[' ']' (writeItems (depth + 1) items)
  | .dict entries => block depth '\x7b' '\x7d' (writeEntries (depth + 1) entries)

def writeItems (depth : Nat) : List Value → List Text
  | [] => []
  | item :: items => writeAt depth item :: writeItems depth items

def writeEntries (depth : Nat) : List (Value × Value) → List Text
  | [] => []
  | (key, value) :: entries =>
    let name := match key with
      | .str text => literal text
      | key => literal (writeAt 0 key)
    (name ++ ": " ++ writeAt depth value) :: writeEntries depth entries

end

def write (value : Value) : Text := writeAt 0 value

end TypedCatalog.Json
