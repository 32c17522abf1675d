import TypedCatalog.Text.Utf8
import TypedCatalog.Value.Access

/-! The query of an address: names and values as a form sends them. -/
namespace TypedCatalog.Query

/-- Characters that stand for themselves. -/
def isUnreserved (c : Char) : Bool := Text.isAlnum c || c = '_' || c = '.' || c = '-' || c = '~'

/-- A byte as a percent sign and two hexadecimal digits in capitals. -/
def escapeByte (byte : UInt8) : Text := '%' :: (Text.hex 2 byte.toNat).map Text.upperAscii

def escapeChar (c : Char) : Text :=
  if isUnreserved c then [c]
  else if c = ' ' then ['+']
  else (Text.Utf8.encodeChar c).flatMap escapeByte

def escape (text : Text) : Text := text.flatMap escapeChar

def pair (entry : Text × Text) : Text := escape entry.1 ++ '=' :: escape entry.2

def encode (entries : List (Text × Text)) : Text := Text.join ['&'] (entries.map pair)

/-- The text of a parameter: truth values in small letters. -/
def valueText : Value → Except Fault Text
  | .bool true => .ok "true"
  | .bool false => .ok "false"
  | value => value.text

/-- What a query says of parameters; null says nothing. -/
def ofParams : Value.Entries → Except Fault (List (Text × Text))
  | [] => .ok []
  | (key, value) :: params =>
    if value.isNull then ofParams params
    else do
      let text ← valueText value
      let name ← key.text
      return (name, text) :: (← ofParams params)

end TypedCatalog.Query
