import TypedCatalog.Declaration.Basic
import TypedCatalog.Json.Reader

/-! A reader of modules, defined from the grammar of declarations and independent of the writer: it
skips white space and comments between tokens and decodes literals by JSON rules. -/
namespace TypedCatalog.Declaration

/-- The state of `skip`: between tokens, in a line comment, or in a block comment. -/
inductive Gap where
  | blank
  | line
  | block

def endsLine (c : Char) : Bool := c = '\n' || c = '\r' || c = '\u2028' || c = '\u2029'

/-- The text from the next token on. A block comment ends at its first `endMark`; without one there
is no next token. -/
def skip : Gap → Text → Option Text
  | .blank, '/' :: '/' :: rest => skip .line rest
  | .blank, '/' :: '*' :: rest => skip .block rest
  | .blank, c :: rest => if Json.isSpace c then skip .blank rest else some (c :: rest)
  | .line, c :: rest => if endsLine c then skip .blank rest else skip .line rest
  | .block, '*' :: '/' :: rest => skip .blank rest
  | .block, _ :: rest => skip .block rest
  | .blank, [] | .line, [] => some []
  | .block, [] => none

def readMark (mark : Char) (text : Text) : Option Text :=
  match skip .blank text with
  | some (c :: rest) => if c = mark then some rest else none
  | _ => none

/-- The maximal run of characters of a class at the next token. -/
def readRun (holds : Char → Bool) (text : Text) : Option (Text × Text) :=
  (skip .blank text).map fun text => (text.takeWhile holds, text.dropWhile holds)

def readLiteral (text : Text) : Option (Text × Text) :=
  match skip .blank text with
  | some ('"' :: rest) => (Json.readText rest).toOption
  | _ => none

def readIdentifier (text : Text) : Option (Text × Text) :=
  match readRun Name.isIdentifierChar text with
  | some ([], _) | none => none
  | found => found

/-- A property key: a literal or an identifier. -/
def readKey (text : Text) : Option (Text × Text) :=
  match skip .blank text with
  | some ('"' :: rest) => (Json.readText rest).toOption
  | _ => readIdentifier text

/-- The characters up to a semicolon outside literals. No comment may stand among them. -/
def takeType : (inLiteral : Bool) → Text → Option (Text × Text)
  | _, [] => none
  | true, '\\' :: c :: rest =>
    (takeType true rest).map fun (type, rest) => ('\\' :: c :: type, rest)
  | true, c :: rest => (takeType (c ≠ '"') rest).map fun (type, rest) => (c :: type, rest)
  | false, ';' :: rest => some ([], rest)
  | false, '/' :: _ => none
  | false, c :: rest => (takeType (c = '"') rest).map fun (type, rest) => (c :: type, rest)

def readType (text : Text) : Option (Text × Text) := (skip .blank text).bind (takeType false)

/-- Whether a question mark comes next. -/
def readOptional (text : Text) : Option (Bool × Text) :=
  match skip .blank text with
  | some ('?' :: rest) => some (true, rest)
  | some rest => some (false, rest)
  | none => none

def readProperty (text : Text) : Option (Property × Text) := do
  let (name, text) ← readKey text
  let (isOptional, text) ← readOptional text
  let text ← readMark ':' text
  let (type, text) ← readType text
  return ({ name, type, isOptional }, text)

def readMember (text : Text) : Option ((Text × Text) × Text) := do
  let (name, text) ← readIdentifier text
  let text ← readMark '=' text
  let (value, text) ← readLiteral text
  let text ← readMark ',' text
  return ((name, value), text)

/-- Items up to the closing brace. -/
def readUntilBrace {α : Type} (read : Text → Option (α × Text)) :
    (fuel : Nat) → Text → Option (List α × Text)
  | 0, _ => none
  | fuel + 1, text =>
    match skip .blank text with
    | none => none
    | some ('\x7d' :: rest) => some ([], rest)
    | some text => do
      let (item, text) ← read text
      let (items, text) ← readUntilBrace read fuel text
      return (item :: items, text)

/-- Items between braces. Every item leaves a character behind, so that the length of the text
bounds their number. -/
def readBraced {α : Type} (read : Text → Option (α × Text)) (text : Text) :
    Option (List α × Text) := do
  let text ← readMark '\x7b' text
  readUntilBrace read text.length text

/-- The declaration after its keyword. An exported name may be empty. -/
def readBody (keyword text : Text) : Option (Declaration × Text) := do
  let (name, text) ← readRun Text.isAlnum text
  if keyword = "interface" then
    let (properties, text) ← readBraced readProperty text
    return (interface name properties, text)
  else if keyword = "enum" then
    let (members, text) ← readBraced readMember text
    return (enumeration name members, text)
  else if keyword = "type" then
    let text ← readMark '=' text
    let (type, text) ← readType text
    return (synonym name type, text)
  else none

def readDeclaration (text : Text) : Option (Declaration × Text) := do
  let (word, text) ← readIdentifier text
  if word = "export" then
    let (keyword, text) ← readIdentifier text
    readBody keyword text
  else none

/-- Declarations up to the end of the text. -/
def readDeclarations : (fuel : Nat) → Text → Option (List Declaration)
  | 0, _ => none
  | fuel + 1, text =>
    match skip .blank text with
    | none => none
    | some [] => some []
    | some text => do
      let (declaration, text) ← readDeclaration text
      return declaration :: (← readDeclarations fuel text)

/-- The declarations of a text that contains nothing else. -/
def readModule (text : Text) : Option (List Declaration) := readDeclarations (text.length + 1) text

end TypedCatalog.Declaration
