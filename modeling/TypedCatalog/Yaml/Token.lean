import TypedCatalog.Text.Utf8
import TypedCatalog.Yaml.Scalar

/-! The tokens of YAML text. Indentation becomes tokens of its own: one where a block collection
starts and one where it ends. What a colon is the key of is known only when the colon comes, so that
the token of the key is put in front of it then. -/
namespace TypedCatalog.Yaml

/-- The name of a tag: a handle that stands for the start of it, and the rest. -/
structure TagName where
  handle : Option Text
  suffix : Text

inductive Token where
  | version (major : Nat)
  | shorthand (handle start : Text)
  | otherDirective
  | documentStart
  | documentEnd
  | blockSequenceStart
  | blockMappingStart
  | blockEnd
  | flowSequenceStart
  | flowSequenceEnd
  | flowMappingStart
  | flowMappingEnd
  | blockEntry
  | flowEntry
  | key
  | value
  | anchor (name : Text)
  /-- What an anchor stands before. -/
  | reference (name : Text)
  | tag (name : TagName)
  | scalar (text : Text) (isPlain : Bool)
  | streamEnd

namespace Lexer

def isTagChar (c : Char) : Bool :=
  isWordChar c || c ∈ ";/?:@&=+$,.!~*'()[]%".toList

/-- Bytes written as two hexadecimal digits each, after percent signs. -/
def escapedBytes : (fuel : Nat) → Cursor → Step (List UInt8 × Cursor)
  | 0, c => .ok ([], c)
  | fuel + 1, c =>
    if c.peek ≠ some '%' then .ok ([], c)
    else match c.peekAt 1, c.peekAt 2 with
      | some a, some b =>
        match Scalar.hexNumber? [a, b] with
        | none => stop .token
        | some byte => do
          let (bytes, c) ← escapedBytes fuel (c.skip 3)
          return (byte.toUInt8 :: bytes, c)
      | _, _ => stop .token

def tagChars : (fuel : Nat) → Cursor → Step (Text × Cursor)
  | 0, c => .ok ([], c)
  | fuel + 1, c =>
    match c.peek with
    | some '%' => do
      let (bytes, c) ← escapedBytes fuel c
      match Text.Utf8.decode? bytes with
      | none => stop .token
      | some chars => do
        let (more, c) ← tagChars fuel c
        return (chars ++ more, c)
    | some char =>
      if isTagChar char then do
        let (more, c) ← tagChars fuel c.next
        return (char :: more, c)
      else .ok ([], c)
    | none => .ok ([], c)

/-- A part of a tag, which is not empty. An escape may stand for nothing. -/
def tagPart (c : Cursor) : Step (Text × Cursor) :=
  if (c.peek.map isTagChar).getD false then tagChars (c.rest.length + 1) c else stop .token

/-- A handle: an exclamation mark, or a word between two. -/
def tagHandle (c : Cursor) : Step (Text × Cursor) :=
  if c.peek ≠ some '!' then stop .token
  else if c.peekAt 1 = some ' ' then .ok (['!'], c.next)
  else
    let (word, after) := c.next.takeWhile isWordChar
    if after.peek = some '!' then .ok ('!' :: word ++ ['!'], after.next) else stop .token

/-- Whether an exclamation mark stands in the word behind the first one. -/
def hasHandle (c : Cursor) : Bool :=
  '!' ∈ c.next.rest.takeWhile fun char => !endsPart (some char)

def tagName (c : Cursor) : Step (TagName × Cursor) := do
  let (name, c) ← match c.peekAt 1 with
    | some '<' => do
      let (suffix, c) ← tagPart (c.skip 2)
      if c.peek = some '>' then pure (TagName.mk none suffix, c.next) else stop .token
    | second =>
      if endsWord second then pure (TagName.mk none ['!'], c.next)
      else do
        let (handle, c) ← if hasHandle c then tagHandle c else pure (['!'], c.next)
        let (suffix, c) ← tagPart c
        pure (TagName.mk (some handle) suffix, c)
  if endsPart c.peek then return (name, c) else stop .token

/-- What may follow an anchor at once, apart from white space. -/
def endsAnchor (c : Char) : Bool := c ∈ "?:,]\x7d%@\x60".toList

/-- The name of an anchor, after its mark. -/
def anchorName (c : Cursor) : Step (Text × Cursor) :=
  let (name, c) := c.takeWhile isWordChar
  let ends := endsWord c.peek || (c.peek.map endsAnchor).getD false
  if name = [] || !ends then stop .token else .ok (name, c)

def directiveNumber (c : Cursor) : Step (Nat × Cursor) :=
  let (digits, c) := c.takeWhile Text.isDigit
  if digits = [] then stop .directive
  else .ok (Number.ofDigits (digits.map fun d => d.toNat - 48), c)

/-- A directive, after its percent sign. -/
def directive (c : Cursor) : Step (Token × Cursor) := do
  let (name, c) := c.takeWhile isWordChar
  if name = [] || !endsPart c.peek then stop .directive
  let (token, c) ←
    if name = "YAML".toList then do
      let (major, c) ← directiveNumber c.skipBlanks
      if c.peek ≠ some '.' then stop .directive
      let (_, c) ← directiveNumber c.next
      if !endsPart c.peek then stop .directive
      pure (Token.version major, c)
    else if name = "TAG".toList then do
      let (handle, c) ← tagHandle c.skipBlanks
      if c.peek ≠ some ' ' then stop .directive
      let (start, c) ← tagPart c.skipBlanks
      if !endsPart c.peek then stop .directive
      pure (Token.shorthand handle start, c)
    else pure (Token.otherDirective, c.skipLine)
  let c ← Scalar.restOfLine c
  return (token, c)

end Lexer
end TypedCatalog.Yaml
