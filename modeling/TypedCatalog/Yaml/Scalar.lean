import TypedCatalog.Yaml.Cursor

/-! The texts of scalars: plain, between quotes, and in blocks. -/
namespace TypedCatalog.Yaml.Scalar

/-- The character behind a letter that follows a backslash. -/
def escapeLetter? : Char → Option Char
  | '0' => some '\x00'
  | 'a' => some '\x07'
  | 'b' => some '\x08'
  | 't' => some '\t'
  | '\t' => some '\t'
  | 'n' => some '\n'
  | 'v' => some '\x0b'
  | 'f' => some '\x0c'
  | 'r' => some '\r'
  | 'e' => some '\x1b'
  | ' ' => some ' '
  | '"' => some '"'
  | '\\' => some '\\'
  | '/' => some '/'
  | 'N' => some '\x85'
  | '_' => some '\xa0'
  | 'L' => some '\u2028'
  | 'P' => some '\u2029'
  | _ => none

/-- How many digits follow a letter of a numbered escape. -/
def escapeWidth? : Char → Option Nat
  | 'x' => some 2
  | 'u' => some 4
  | 'U' => some 8
  | _ => none

def hexNumber? (digits : Text) : Option Nat :=
  digits.foldl (fun n? c => n?.bind fun n => (Text.hexValue? c).map (16 * n + ·)) (some 0)

/-- The character of a code; half a pair becomes the replacement character. -/
def codeChar (code : Nat) : Step Char :=
  if 0x7fffffff < code then .error (.fault (.misuse .overflow))
  else if 0x10ffff < code then .error (.fault (.content .codePoint))
  else .ok (Json.unitChar code)

/-- Empty lines, blanks before the text of a line, and no mark between documents. -/
def lineEnds : (fuel : Nat) → Cursor → Step (Text × Cursor)
  | 0, c => .ok ([], c)
  | fuel + 1, c =>
    if c.isSeparator then stop .token
    else
      let c := (c.takeWhile fun char => char = ' ' || char = '\t').2
      match c.lineEnd? with
      | none => .ok ([], c)
      | some (char, c) => do
        let (chars, c) ← lineEnds fuel c
        return (char :: chars, c)

/-- What an end of a line and the empty lines after it count for: one end is a blank. -/
def folded (first : Char) (more : Text) : Text :=
  if first ≠ '\n' then first :: more
  else if more = [] then [' ']
  else more

/-- White space between two words of a quoted text. -/
def quotedSpace (fuel : Nat) (c : Cursor) : Step (Text × Cursor) :=
  let (space, c) := c.takeWhile fun char => char = ' ' || char = '\t'
  match c.lineEnd? with
  | some (first, c) => do
    let (more, c) ← lineEnds fuel c
    return (folded first more, c)
  | none => if c.rest = [] then stop .token else .ok (space, c)

def isQuotedStop (c : Char) : Bool :=
  c = '\'' || c = '"' || c = '\\' || c = ' ' || c = '\t' || isBreak c

/-- What a backslash and the characters after it stand for. -/
def escaped (fuel : Nat) (c : Cursor) : Step (Text × Cursor) :=
  match c.peek with
  | none => stop .token
  | some letter =>
    match escapeLetter? letter, escapeWidth? letter with
    | some char, _ => .ok ([char], c.next)
    | none, some width => do
      let digits := c.next.rest.take width
      match hexNumber? digits with
      | some code =>
        if digits.length < width then stop .token
        else return ([← codeChar code], c.skip (width + 1))
      | none => stop .token
    | none, none =>
      if isBreak letter then lineEnds fuel c.skipLineEnd else stop .token

/-- The text up to the closing mark, which is also passed. -/
def quoted (mark : Char) : (fuel : Nat) → Cursor → Step (Text × Cursor)
  | 0, _ => stop .token
  | fuel + 1, c => do
    let (plain, c) := c.takeWhile fun char => !isQuotedStop char
    match c.peek with
    | none => stop .token
    | some char =>
      if char = mark then
        if mark = '\'' && c.peekAt 1 = some '\'' then
          let (text, c) ← quoted mark fuel (c.skip 2)
          return (plain ++ '\'' :: text, c)
        else return (plain, c.next)
      else
        let (part, c) ←
          if char = '\\' && mark = '"' then escaped fuel c.next
          else if char = '\'' || char = '"' || char = '\\' then pure ([char], c.next)
          else quotedSpace fuel c
        let (text, c) ← quoted mark fuel c
        return (plain ++ part ++ text, c)

def isFlowMark (c : Char) : Bool := c = ',' || c = '[' || c = ']' || c = '\x7b' || c = '\x7d'

/-- Whether a plain scalar ends before a text. -/
def plainEnds (inFlow : Bool) : Text → Bool
  | [] => true
  | c :: rest =>
    endsWord (some c) ||
    (c = ':' && (endsWord rest.head? || inFlow && (rest.head?.map isFlowMark).getD false)) ||
    (inFlow && (isFlowMark c || c = '?'))

/-- The characters up to the end of a plain word. -/
def plainWord (inFlow : Bool) : Text → Text
  | [] => []
  | c :: rest => if plainEnds inFlow (c :: rest) then [] else c :: plainWord inFlow rest

/-- Empty lines and blanks after a line of a plain scalar; none before a mark between documents. -/
def plainLineEnds : (fuel : Nat) → Cursor → Option Text × Cursor
  | 0, c => (some [], c)
  | fuel + 1, c =>
    if c.isSeparator then (none, c)
    else
      let c := c.skipBlanks
      match c.lineEnd? with
      | none => (some [], c)
      | some (char, c) =>
        let (chars, c) := plainLineEnds fuel c
        (chars.map (char :: ·), c)

/-- A plain scalar; the last part tells whether a line ended after it. -/
structure Plain where
  text : Text
  cursor : Cursor
  lineEnded : Bool

/-- White space after a word of a plain scalar: what it counts for, empty if no word may follow. -/
def plainSpace (fuel : Nat) (c : Cursor) : Plain :=
  let (space, c) := c.takeWhile (· = ' ')
  match c.lineEnd? with
  | none => ⟨space, c, false⟩
  | some (first, c) =>
    match plainLineEnds fuel c with
    | (none, c) => ⟨[], c, true⟩
    | (some more, c) => ⟨folded first more, c, true⟩

/-- A plain scalar whose lines start at a column or beyond it. -/
def plain (inFlow : Bool) (column : Nat) : (fuel : Nat) → Cursor → (lineEnded : Bool) → Plain
  | 0, c, lineEnded => ⟨[], c, lineEnded⟩
  | fuel + 1, c, lineEnded =>
    if c.peek = some '#' then ⟨[], c, lineEnded⟩
    else
      let word := plainWord inFlow c.rest
      if word = [] then ⟨[], c, lineEnded⟩
      else
        let space := plainSpace fuel (c.skip word.length)
        let c := space.cursor
        if space.text = [] || c.peek = some '#' || (!inFlow && c.column < column) then
          ⟨word, c, space.lineEnded⟩
        else
          let more := plain inFlow column fuel c space.lineEnded
          if more.text = [] then ⟨word, more.cursor, more.lineEnded⟩
          else ⟨word ++ space.text ++ more.text, more.cursor, more.lineEnded⟩

/-- How the ends of a block are treated. -/
inductive Chomping where
  | clip
  | strip
  | keep
  deriving DecidableEq

def chomping? : Option Char → Option Chomping
  | some '+' => some .keep
  | some '-' => some .strip
  | _ => none

/-- An indentation of one digit, which is not zero. -/
def increment? (c : Cursor) : Step (Option Nat × Cursor) :=
  match c.peek with
  | some char =>
    if Text.isDigit char then
      if char = '0' then stop .token else .ok (some (char.toNat - 48), c.next)
    else .ok (none, c)
  | none => .ok (none, c)

/-- The indicators after the mark of a block, in either order. -/
def indicators (c : Cursor) : Step (Chomping × Option Nat × Cursor) := do
  let (chomping, increment, c) ← match chomping? c.peek with
    | some chomping => do
      let (increment, c) ← increment? c.next
      pure (chomping, increment, c)
    | none => do
      match ← increment? c with
      | (none, c) => pure (Chomping.clip, none, c)
      | (some n, c) =>
        match chomping? c.peek with
        | some chomping => pure (chomping, some n, c.next)
        | none => pure (Chomping.clip, some n, c)
  if endsPart c.peek then return (chomping, increment, c) else stop .token

/-- Blanks and a comment up to the end of a line. -/
def restOfLine (c : Cursor) : Step Cursor :=
  let c := c.skipBlanks
  let c := if c.peek = some '#' then c.skipLine else c
  if endsLine c.peek then .ok c.skipLineEnd else stop .token

/-- Empty lines before a block, and the greatest column that blanks reach. -/
def leadingLines : (fuel : Nat) → Cursor → (greatest : Nat) → Text × Nat × Cursor
  | 0, c, greatest => ([], greatest, c)
  | fuel + 1, c, greatest =>
    if c.peek = some ' ' then leadingLines fuel c.next (max greatest c.next.column)
    else match c.lineEnd? with
      | none => ([], greatest, c)
      | some (char, c) =>
        let (chars, greatest, c) := leadingLines fuel c greatest
        (char :: chars, greatest, c)

/-- Empty lines of a block with a given indentation. -/
def emptyLines (column : Nat) : (fuel : Nat) → Cursor → Text × Cursor
  | 0, c => ([], c)
  | fuel + 1, c =>
    let c := c.skipIndent column
    match c.lineEnd? with
    | none => ([], c)
    | some (char, c) =>
      let (chars, c) := emptyLines column fuel c
      (char :: chars, c)

def startsBlank (c : Cursor) : Bool := c.peek = some ' ' || c.peek = some '\t'

/-- The lines of a block: the text, the end of its last line, and the empty lines after it. -/
def blockLines (isFolded : Bool) (column : Nat) :
    (fuel : Nat) → Cursor → (before : Text) → Text × Text × Text × Cursor
  | 0, c, before => ([], [], before, c)
  | fuel + 1, c, before =>
    if c.column ≠ column || c.peek.isNone then ([], [], before, c)
    else
      let isBlank := startsBlank c
      let (line, c) := c.takeWhile fun char => !isBreak char
      let (lineEnd, c) := match c.lineEnd? with
        | some (char, c) => ([char], c)
        | none => ([], c)
      let (after, c) := emptyLines column fuel c
      if c.column = column && c.peek.isSome then
        let joint :=
          if isFolded && lineEnd = ['\n'] && !isBlank && !startsBlank c then
            if after = [] then [' '] else []
          else lineEnd
        let (text, lineEnd, after, c) := blockLines isFolded column fuel c after
        (before ++ line ++ joint ++ text, lineEnd, after, c)
      else (before ++ line, lineEnd, after, c)

/-- A block scalar, at the character after its mark; `indent` is the least column of its lines. -/
def block (isFolded : Bool) (indent : Nat) (c : Cursor) : Step (Text × Cursor) := do
  let fuel := c.rest.length + 1
  let (chomping, increment, c) ← indicators c
  let c ← restOfLine c
  let (before, column, c) := match increment with
    | some n =>
      let column := indent + n - 1
      let (before, c) := emptyLines column fuel c
      (before, column, c)
    | none =>
      let (before, greatest, c) := leadingLines fuel c 0
      (before, max indent greatest, c)
  let (text, lineEnd, after, c) := blockLines isFolded column fuel c before
  return match chomping with
    | .strip => (text, c)
    | .clip => (text ++ lineEnd, c)
    | .keep => (text ++ lineEnd ++ after, c)

end TypedCatalog.Yaml.Scalar
