import TypedCatalog.Fault

/-! A place in YAML text, and the classes of characters that tell its parts from one another. -/
namespace TypedCatalog.Yaml

/-- What stops a reader: a text that is not YAML, or a value that its tag cannot make. -/
inductive Stop where
  | problem (problem : YamlProblem)
  | fault (fault : Fault)

abbrev Step (α : Type) := Except Stop α

def stop {α : Type} (problem : YamlProblem) : Step α := .error (.problem problem)

def isBreak (c : Char) : Bool :=
  c = '\n' || c = '\r' || c = '\x85' || c = '\u2028' || c = '\u2029'

/-- Whether a line ends here; none is the end of the text. -/
def endsLine : Option Char → Bool
  | none => true
  | some c => isBreak c

/-- Whether a line ends or a blank stands here. -/
def endsPart : Option Char → Bool
  | none => true
  | some c => isBreak c || c = ' '

/-- Whether a line ends or white space stands here. -/
def endsWord : Option Char → Bool
  | none => true
  | some c => isBreak c || c = ' ' || c = '\t'

/-- Letters, digits, hyphen and underscore. -/
def isWordChar (c : Char) : Bool := Text.isAlnum c || c = '-' || c = '_'

structure Cursor where
  rest : Text
  index : Nat := 0
  line : Nat := 0
  column : Nat := 0

namespace Cursor

def peek (c : Cursor) : Option Char := c.rest.head?

def peekAt (c : Cursor) (n : Nat) : Option Char := c.rest[n]?

/-- Past one character. A byte order mark takes no column. -/
def next (c : Cursor) : Cursor :=
  match c.rest with
  | [] => c
  | char :: rest =>
    if isBreak char && !(char = '\r' && rest.head? = some '\n') then
      ⟨rest, c.index + 1, c.line + 1, 0⟩
    else ⟨rest, c.index + 1, c.line, if char = '\ufeff' then c.column else c.column + 1⟩

/-- Past a number of characters. -/
def skip (c : Cursor) : Nat → Cursor
  | 0 => c
  | n + 1 => skip c.next n

/-- The characters of a class at the start. -/
def takeWhile (c : Cursor) (p : Char → Bool) : Text × Cursor :=
  let taken := c.rest.takeWhile p
  (taken, c.skip taken.length)

def skipBlanks (c : Cursor) : Cursor := (c.takeWhile (· = ' ')).2

def skipLine (c : Cursor) : Cursor := (c.takeWhile fun char => !isBreak char).2

/-- Past the end of a line, with what it counts for in text. -/
def lineEnd? (c : Cursor) : Option (Char × Cursor) :=
  match c.rest with
  | '\r' :: '\n' :: _ => some ('\n', c.skip 2)
  | char :: _ =>
    if !isBreak char then none
    else if char = '\u2028' || char = '\u2029' then some (char, c.next)
    else some ('\n', c.next)
  | [] => none

def skipLineEnd (c : Cursor) : Cursor := (c.lineEnd?.map (·.2)).getD c

/-- Whether three equal characters stand here as a word. -/
def isMark (c : Cursor) (char : Char) : Bool :=
  c.rest.take 3 = [char, char, char] && endsWord (c.peekAt 3)

/-- Whether a mark between documents stands here. -/
def isSeparator (c : Cursor) : Bool := c.isMark '-' || c.isMark '.'

/-- Past the blanks before a column. -/
def skipIndent (column : Nat) (c : Cursor) : Cursor :=
  c.skip (min (column - c.column) (c.rest.takeWhile (· = ' ')).length)

end Cursor
end TypedCatalog.Yaml
