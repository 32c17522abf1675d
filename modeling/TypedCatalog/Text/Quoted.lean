import TypedCatalog.Text.Printable

/-! Text between quotes, as it is shown inside another value: single quotes, unless the text holds
single quotes and no double ones. -/
namespace TypedCatalog.Text

def quoteMark (text : Text) : Char :=
  if '\'' ∈ text ∧ '"' ∉ text then '"' else '\''

/-- A code point in base sixteen, as short as its size allows. -/
def escapeCode (code : Nat) : Text :=
  if code < 0x100 then "\\x" ++ hex 2 code
  else if code < 0x10000 then "\\u" ++ hex 4 code
  else "\\U" ++ hex 8 code

def escapeChar (mark c : Char) : Text :=
  if c = mark || c = '\\' then ['\\', c]
  else if c = '\t' then "\\t"
  else if c = '\n' then "\\n"
  else if c = '\r' then "\\r"
  else if isPrintable c then [c]
  else escapeCode c.toNat

def quoted (text : Text) : Text :=
  let mark := quoteMark text
  mark :: text.flatMap (escapeChar mark) ++ [mark]

/-- Bytes between quotes, after a letter that tells them from text. -/
def quotedBytes (bytes : List UInt8) : Text :=
  let text := bytes.map fun byte => Char.ofNat byte.toNat
  let mark := quoteMark text
  let shown (c : Char) : Text :=
    if 0x7f ≤ c.toNat then escapeCode c.toNat else escapeChar mark c
  'b' :: mark :: text.flatMap shown ++ [mark]

end TypedCatalog.Text
