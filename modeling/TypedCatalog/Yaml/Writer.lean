import TypedCatalog.Number.Written
import TypedCatalog.Value.Basic
import TypedCatalog.Yaml.Cursor
import TypedCatalog.Yaml.Tag

/-! YAML text in basic Latin characters only: collections in blocks, and scalars plain where their
text allows it, else in single quotes, else in double ones. Long scalars are folded. -/
namespace TypedCatalog.Yaml

/-- What is written so far. -/
structure Page where
  /-- The characters, last first. -/
  written : Text := []
  column : Nat := 0
  /-- Whether white space was written last. -/
  isSpaced : Bool := true
  /-- Whether nothing but indentation and marks stands on the line. -/
  isIndented : Bool := true

namespace Page

/-- Lines are folded at the first blank beyond this column. -/
def width : Nat := 80

def put (page : Page) (text : Text) : Page :=
  { page with written := text.reverse ++ page.written, column := page.column + text.length }

def newLine (page : Page) : Page :=
  { written := '\n' :: page.written, column := 0, isSpaced := true, isIndented := true }

/-- Goes to a column, on a new line unless the line is still free there. -/
def indentTo (column : Nat) (page : Page) : Page :=
  let isFree := page.isIndented && (page.column < column || (page.column = column && page.isSpaced))
  let page := if isFree then page else page.newLine
  if page.column < column then
    { page.put (List.replicate (column - page.column) ' ') with isSpaced := true }
  else page

/-- A mark, after a blank if it needs one. -/
def mark (text : Text) (needsSpace keepsIndent : Bool) (page : Page) : Page :=
  let text := if page.isSpaced || !needsSpace then text else ' ' :: text
  { page.put text with isSpaced := false, isIndented := page.isIndented && keepsIndent }

end Page

inductive Style where
  | plain
  | single
  | double
  deriving DecidableEq

/-- Whether a character can only be written as an escape. -/
def isSpecial (c : Char) : Bool := !(c = '\n' || (0x20 ≤ c.toNat && c.toNat ≤ 0x7e))

/-- Whether one character stands right before another. -/
def hasPair (first second : Char) : Text → Bool
  | a :: b :: rest => (a = first && b = second) || hasPair first second (b :: rest)
  | _ => false

/-- Characters that start something else than a plain scalar. -/
def startMarks : Text := "#,[]\x7b\x7d&*!|>'\"%@\x60".toList

/-- Whether a colon ends a word, or a number sign starts one. -/
def hasMark : (afterSpace : Bool) → Text → Bool
  | _, [] => false
  | afterSpace, c :: rest =>
    (c = ':' && endsWord rest.head?) || (c = '#' && afterSpace) || hasMark (endsWord (some c)) rest

/-- Whether a plain scalar with this text would be something else in a block. -/
def looksLikeMark (text : Text) : Bool :=
  match text with
  | [] => false
  | c :: rest =>
    Text.startsWith "---" text || Text.startsWith "..." text || c ∈ startMarks ||
      ((c = '?' || c = ':' || c = '-') && endsWord rest.head?) || hasMark (endsWord (some c)) rest

def isEdge : Option Char → Bool
  | some c => c = ' ' || c = '\n'
  | none => false

def allowsPlain (text : Text) : Bool :=
  !(isEdge text.head? || isEdge text.getLast? || '\n' ∈ text || text.any isSpecial ||
    looksLikeMark text)

/-- Blanks beside the end of a line would be lost in single quotes. -/
def allowsSingle (text : Text) : Bool :=
  !(text.any isSpecial || hasPair ' ' '\n' text || hasPair '\n' ' ' text)

/-- The style of a text that may stand plain if `isOwn`, that is, if it would be read back as what
it is. -/
def styleOf (isOwn isKey : Bool) (text : Text) : Style :=
  if isOwn && allowsPlain text && !(isKey && text = []) then .plain
  else if allowsSingle text && !(isKey && '\n' ∈ text) then .single
  else .double

inductive RunKind where
  | word
  | blanks
  | breaks
  deriving DecidableEq

def runKind (c : Char) : RunKind :=
  if c = ' ' then .blanks else if c = '\n' then .breaks else .word

/-- Words, blanks and line ends, each as long as they go on. -/
def runs (text : Text) : List Text := text.splitBy fun a b => runKind a == runKind b

/-- Whether a blank is a place to go to the next line. -/
def folds (splits : Bool) (run : Text) (page : Page) : Bool :=
  splits && run = [' '] && Page.width < page.column

def writePlain (indent : Nat) (splits : Bool) (text : Text) (page : Page) : Page :=
  let start := if page.isSpaced then page else page.put [' ']
  let writeRun (page : Page) (run : Text) : Page :=
    if folds splits run page then page.indentTo indent else page.put run
  { (runs text).foldl writeRun { start with isIndented := false } with
    isSpaced := false, isIndented := false }

/-- The runs of a text in single quotes; the first and the last do not fold. -/
def writeSingleRuns (indent : Nat) (splits : Bool) : (isFirst : Bool) → List Text → Page → Page
  | _, [], page => page
  | isFirst, run :: rest, page =>
    let page :=
      if run.head? = some '\n' then
        (run.foldl (fun page _ => page.newLine) page.newLine).indentTo indent
      else if !isFirst && !rest.isEmpty && folds splits run page then page.indentTo indent
      else page.put (run.flatMap fun c => if c = '\'' then ['\'', '\''] else [c])
    writeSingleRuns indent splits false rest page

def writeSingle (indent : Nat) (splits : Bool) (text : Text) (page : Page) : Page :=
  let page := page.mark ['\''] true false
  (writeSingleRuns indent splits true (runs text) page).mark ['\''] false false

/-- The letter that stands for a character behind a backslash. -/
def escapeName? (c : Char) : Option Char :=
  match c with
  | '\x00' => some '0'
  | '\x07' => some 'a'
  | '\x08' => some 'b'
  | '\t' => some 't'
  | '\n' => some 'n'
  | '\x0b' => some 'v'
  | '\x0c' => some 'f'
  | '\r' => some 'r'
  | '\x1b' => some 'e'
  | '"' => some '"'
  | '\\' => some '\\'
  | '\x85' => some 'N'
  | '\xa0' => some '_'
  | '\u2028' => some 'L'
  | '\u2029' => some 'P'
  | _ => none

def escape (c : Char) : Text :=
  let digits (width : Nat) : Text := (Text.hex width c.toNat).map Text.upperAscii
  match escapeName? c with
  | some name => ['\\', name]
  | none =>
    if c.toNat < 0x100 then '\\' :: 'x' :: digits 2
    else if c.toNat < 0x10000 then '\\' :: 'u' :: digits 4
    else '\\' :: 'U' :: digits 8

def needsEscape (c : Char) : Bool := c = '"' || c = '\\' || isSpecial c || c = '\n'

/-- Goes to the next line inside double quotes; a blank that comes next is escaped. -/
def foldDouble (indent : Nat) (next : Option Char) (page : Page) : Page :=
  let page := { (page.put ['\\']).indentTo indent with isSpaced := false, isIndented := false }
  if next = some ' ' then page.put ['\\'] else page

/-- The characters of a text in double quotes. -/
def writeDoubleChars (indent : Nat) (splits : Bool) :
    (isFirst afterEscape : Bool) → Text → Page → Page
  | _, _, [], page => page
  | isFirst, afterEscape, c :: rest, page =>
    let mayFold := splits && !isFirst && !rest.isEmpty
    if needsEscape c then
      let page := page.put (escape c)
      let page :=
        if mayFold && Page.width + 1 < page.column then foldDouble indent rest.head? page else page
      writeDoubleChars indent splits false true rest page
    else
      let page :=
        if mayFold && (c = ' ' || afterEscape) && Page.width < page.column then
          foldDouble indent (some c) page
        else page
      writeDoubleChars indent splits false false rest (page.put [c])

def writeDouble (indent : Nat) (splits : Bool) (text : Text) (page : Page) : Page :=
  let page := page.mark ['"'] true false
  (writeDoubleChars indent splits true false text page).mark ['"'] false false

def writeStyled (style : Style) (indent : Nat) (splits : Bool) (text : Text) (page : Page) : Page :=
  match style with
  | .plain => writePlain indent splits text page
  | .single => writeSingle indent splits text page
  | .double => writeDouble indent splits text page

/-- A text whose further lines go to a column. -/
def writeText (indent : Nat) (isKey : Bool) (text : Text) (page : Page) : Page :=
  let style := styleOf (Tag.ofPlain text = .text) isKey text
  writeStyled style indent (!isKey) text page

/-- A double with a point, so that it is read back as one. -/
def floatText : Binary64 → Text
  | .undefined => ".nan"
  | .infinite negative => Binary64.sign negative ++ ".inf"
  | x =>
    let text := x.text
    if '.' ∈ text then text
    else match Text.cut? 'e' text with
      | some (digits, exponent) => digits ++ ".0e" ++ exponent
      | none => text

/-- The longest text of a key that stands before its colon on one line. -/
def keyLimit : Nat := 122

/-- Whether a character ends a line of a key, which a carriage return alone does not. -/
def breaksLine (c : Char) : Bool := isBreak c && c ≠ '\r'

/-- A key on one line before its colon. -/
def isSimpleKey (key : Text) : Bool := key ≠ [] && !key.any breaksLine && key.length ≤ keyLimit

/-- A key and the mark before its value. -/
def writeKey (indent : Nat) (key : Text) (page : Page) : Page :=
  let page := page.indentTo indent
  if isSimpleKey key then (writeText (indent + 2) true key page).mark [':'] false false
  else
    let page := writeText (indent + 2) false key (page.mark ['?'] true true)
    (page.indentTo indent).mark [':'] true true

mutual

/-- A value inside a collection that is indented to a column. A sequence in a mapping is not
indented further. -/
def writeNode (indent : Nat) (inMapping : Bool) : Value → Page → Page
  | .dict [], page => page.mark ['\x7b', '\x7d'] true false
  | .dict entries, page => writeEntries (indent + 2) entries page
  | .list [], page | .tuple [], page | .set [], page => page.mark ['[', ']'] true false
  | .list items, page | .tuple items, page | .set items, page =>
    writeItems (if inMapping && !page.isIndented then indent else indent + 2) items page
  | .str text, page => writeText (indent + 2) false text page
  | .int n, page => writePlain (indent + 2) true (Text.ofInt n) page
  | .float x, page => writePlain (indent + 2) true (floatText x) page
  | .bool b, page => writePlain (indent + 2) true (if b then "true" else "false") page
  | .null, page | .bytes _, page | .date _, page | .timestamp _, page =>
    writePlain (indent + 2) true "null" page

def writeItems (indent : Nat) : List Value → Page → Page
  | [], page => page
  | item :: items, page =>
    let page := (page.indentTo indent).mark ['-'] true true
    writeItems indent items (writeNode indent false item page)

def writeEntries (indent : Nat) : List (Value × Value) → Page → Page
  | [], page => page
  | (key, value) :: entries, page =>
    let name := match key with
      | .str text => text
      | _ => []
    writeEntries indent entries (writeNode indent true value (writeKey indent name page))

end

/-- The text of a collection. -/
def write (value : Value) : Text :=
  let page := match value with
    | .dict (entry :: entries) => writeEntries 0 (entry :: entries) {}
    | .list (item :: items) => writeItems 0 (item :: items) {}
    | value => writeNode 0 false value {}
  (page.indentTo 0).written.reverse

end TypedCatalog.Yaml
