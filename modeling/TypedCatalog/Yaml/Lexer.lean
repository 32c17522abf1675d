import TypedCatalog.Yaml.Token

/-! Text as a sequence of tokens. -/
namespace TypedCatalog.Yaml

/-- What may turn out to be the key of a mapping, once a colon follows on its line. -/
structure Candidate where
  /-- How many tokens stand before it. -/
  place : Nat
  /-- Whether nothing else can stand at its column. -/
  isRequired : Bool
  start : Cursor

structure Lexer where
  cursor : Cursor
  /-- The tokens so far, last first. -/
  tokens : List Token := []
  /-- How many flow collections are open. -/
  flow : Nat := 0
  /-- The columns of the open block collections, innermost first. -/
  indents : List Nat := []
  /-- Whether a key may start here. -/
  allowsKey : Bool := true
  /-- The candidates of the open flow collections, each with how many are open around it. -/
  candidates : List (Nat × Candidate) := []

namespace Lexer

def push (s : Lexer) (token : Token) : Lexer := { s with tokens := token :: s.tokens }

/-- Puts a token where a number of tokens stand before it. -/
def insertAt (place : Nat) (token : Token) (s : Lexer) : Lexer :=
  let after := s.tokens.length - place
  { s with tokens := s.tokens.take after ++ token :: s.tokens.drop after }

def inFlow (s : Lexer) : Bool := s.flow ≠ 0

/-- Past blanks, comments and empty lines to the next token. -/
def toToken : (fuel : Nat) → Lexer → Lexer
  | 0, s => s
  | fuel + 1, s =>
    let c := s.cursor.skipBlanks
    let c := if c.peek = some '#' then c.skipLine else c
    match c.lineEnd? with
    | none => { s with cursor := c }
    | some (_, c) => toToken fuel { s with cursor := c, allowsKey := s.allowsKey || !s.inFlow }

/-- The most characters from the start of a key to its colon. -/
def keyLimit : Nat := 1024

def isStale (c : Cursor) (candidate : Candidate) : Bool :=
  candidate.start.line ≠ c.line || candidate.start.index + keyLimit < c.index

/-- Forgets candidates that no colon can follow any more. -/
def dropStale (s : Lexer) : Step Lexer :=
  let (stale, live) := s.candidates.partition fun entry => isStale s.cursor entry.2
  if stale.any (·.2.isRequired) then stop .token else .ok { s with candidates := live }

/-- Forgets the candidate of the innermost collection. -/
def dropCandidate (s : Lexer) : Step Lexer :=
  let (here, others) := s.candidates.partition fun entry => entry.1 = s.flow
  if here.any (·.2.isRequired) then stop .token else .ok { s with candidates := others }

/-- Takes what starts here as a candidate, if a key may start here. -/
def addCandidate (s : Lexer) : Step Lexer :=
  if !s.allowsKey then .ok s
  else do
    let s ← s.dropCandidate
    let isRequired := !s.inFlow && s.indents.head? = some s.cursor.column
    let candidate := ⟨s.tokens.length, isRequired, s.cursor⟩
    return { s with candidates := (s.flow, candidate) :: s.candidates }

/-- Ends the block collections that are deeper than a column. -/
def unwindTo (column : Nat) (s : Lexer) : Lexer :=
  if s.inFlow then s
  else
    let ended := s.indents.takeWhile (column < ·)
    { s with
      indents := s.indents.drop ended.length
      tokens := ended.map (fun _ => .blockEnd) ++ s.tokens }

/-- Ends all block collections. -/
def unwind (s : Lexer) : Lexer :=
  if s.inFlow then s
  else { s with indents := [], tokens := s.indents.map (fun _ => .blockEnd) ++ s.tokens }

/-- Whether a column is deeper than the innermost block collection. -/
def isDeeper (s : Lexer) (column : Nat) : Bool :=
  match s.indents with
  | [] => true
  | indent :: _ => indent < column

/-- Starts a block collection at the cursor, unless it goes on. -/
def openBlock (start : Token) (s : Lexer) : Lexer :=
  if s.isDeeper s.cursor.column then
    { s with indents := s.cursor.column :: s.indents, tokens := start :: s.tokens }
  else s

/-- The least column of what belongs to the innermost block collection. -/
def nextIndent (s : Lexer) : Nat :=
  match s.indents with
  | [] => 0
  | indent :: _ => indent + 1

def withCursor (s : Lexer) (c : Cursor) : Lexer := { s with cursor := c }

def skip (n : Nat) (s : Lexer) : Lexer := { s with cursor := s.cursor.skip n }

def readEnd (s : Lexer) : Step Lexer := do
  let s ← s.unwind.dropCandidate
  return { s with allowsKey := false, candidates := [] }.push .streamEnd

def readDirective (s : Lexer) : Step Lexer := do
  let s ← s.unwind.dropCandidate
  let (token, c) ← directive s.cursor.next
  return { s with allowsKey := false, cursor := c }.push token

def readMark (token : Token) (s : Lexer) : Step Lexer := do
  let s ← s.unwind.dropCandidate
  return { s with allowsKey := false }.skip 3 |>.push token

def openFlow (token : Token) (s : Lexer) : Step Lexer := do
  let s ← s.addCandidate
  return { s with flow := s.flow + 1, allowsKey := true }.skip 1 |>.push token

def closeFlow (token : Token) (s : Lexer) : Step Lexer := do
  let s ← s.dropCandidate
  if s.flow = 0 then stop .token
  else return { s with flow := s.flow - 1, allowsKey := false }.skip 1 |>.push token

def readFlowEntry (s : Lexer) : Step Lexer := do
  let s ← { s with allowsKey := true }.dropCandidate
  return s.skip 1 |>.push .flowEntry

def readBlockEntry (s : Lexer) : Step Lexer := do
  if !s.inFlow && !s.allowsKey then stop .indentation
  let s := if s.inFlow then s else s.openBlock .blockSequenceStart
  let s ← { s with allowsKey := true }.dropCandidate
  return s.skip 1 |>.push .blockEntry

def readKey (s : Lexer) : Step Lexer := do
  if !s.inFlow && !s.allowsKey then stop .indentation
  let s := if s.inFlow then s else s.openBlock .blockMappingStart
  let s ← { s with allowsKey := !s.inFlow }.dropCandidate
  return s.skip 1 |>.push .key

/-- A colon: the candidate before it becomes a key. -/
def readValue (s : Lexer) : Step Lexer := do
  match s.candidates.find? fun entry => entry.1 = s.flow with
  | some (_, candidate) =>
    let s := { s with candidates := s.candidates.filter fun entry => entry.1 ≠ s.flow }
    let s := s.insertAt candidate.place .key
    let column := candidate.start.column
    let s :=
      if !s.inFlow && s.isDeeper column then
        { s with indents := column :: s.indents }.insertAt candidate.place .blockMappingStart
      else s
    return { s with allowsKey := false }.skip 1 |>.push .value
  | none =>
    if !s.inFlow && !s.allowsKey then stop .indentation
    let s := if s.inFlow then s else s.openBlock .blockMappingStart
    let s ← { s with allowsKey := !s.inFlow }.dropCandidate
    return s.skip 1 |>.push .value

def readReference (s : Lexer) : Step Lexer := do
  let s ← s.addCandidate
  let (name, c) ← anchorName s.cursor.next
  return { s with allowsKey := false, cursor := c }.push (.reference name)

def readAnchor (s : Lexer) : Step Lexer := do
  let s ← s.addCandidate
  let (name, c) ← anchorName s.cursor.next
  return { s with allowsKey := false, cursor := c }.push (.anchor name)

def readTag (s : Lexer) : Step Lexer := do
  let s ← s.addCandidate
  let (name, c) ← tagName s.cursor
  return { s with allowsKey := false, cursor := c }.push (.tag name)

def readBlock (isFolded : Bool) (s : Lexer) : Step Lexer := do
  let s ← { s with allowsKey := true }.dropCandidate
  let (text, c) ← Scalar.block isFolded (max 1 s.nextIndent) s.cursor.next
  return s.withCursor c |>.push (.scalar text false)

def readQuoted (mark : Char) (s : Lexer) : Step Lexer := do
  let s ← s.addCandidate
  let c := s.cursor.next
  let (text, c) ← Scalar.quoted mark (c.rest.length + 1) c
  return { s with allowsKey := false, cursor := c }.push (.scalar text false)

def readPlain (s : Lexer) : Step Lexer := do
  let s ← s.addCandidate
  let found := Scalar.plain s.inFlow s.nextIndent (s.cursor.rest.length + 1) s.cursor false
  return { s with allowsKey := found.lineEnded, cursor := found.cursor }.push
    (.scalar found.text true)

/-- Characters that start something else than a plain scalar. -/
def indicators : Text := "-?:,[]\x7b\x7d#&*!|>'\"%@\x60".toList

def startsPlain (inFlow : Bool) (char : Char) (second : Option Char) : Bool :=
  !(char ∈ indicators || endsWord (some char)) ||
    (!endsWord second && (char = '-' || (!inFlow && (char = '?' || char = ':'))))

/-- The token at the cursor. -/
def readToken (s : Lexer) : Step Lexer :=
  let c := s.cursor
  let second := c.peekAt 1
  match c.peek with
  | none => s.readEnd
  | some char =>
    if char = '%' && c.column = 0 then s.readDirective
    else if c.column = 0 && c.isMark '-' then s.readMark .documentStart
    else if c.column = 0 && c.isMark '.' then s.readMark .documentEnd
    else if char = '[' then s.openFlow .flowSequenceStart
    else if char = '\x7b' then s.openFlow .flowMappingStart
    else if char = ']' then s.closeFlow .flowSequenceEnd
    else if char = '\x7d' then s.closeFlow .flowMappingEnd
    else if char = ',' then s.readFlowEntry
    else if char = '-' && endsWord second then s.readBlockEntry
    else if char = '?' && (s.inFlow || endsWord second) then s.readKey
    else if char = ':' && (s.inFlow || endsWord second) then s.readValue
    else if char = '*' then s.readReference
    else if char = '&' then s.readAnchor
    else if char = '!' then s.readTag
    else if char = '|' && !s.inFlow then s.readBlock false
    else if char = '>' && !s.inFlow then s.readBlock true
    else if char = '\'' || char = '"' then s.readQuoted char
    else if startsPlain s.inFlow char second then s.readPlain
    else stop .token

def step (s : Lexer) : Step Lexer := do
  let s ← (s.toToken (s.cursor.rest.length + 1)).dropStale
  (s.unwindTo s.cursor.column).readToken

/-- Tokens up to the end of the text, or up to what stops the reader. -/
def run : (fuel : Nat) → Lexer → List Token × Option Stop
  | 0, s => (s.tokens.reverse, some (.problem .token))
  | fuel + 1, s =>
    match s.step with
    | .error stop => (s.tokens.reverse, some stop)
    | .ok s =>
      match s.tokens with
      | .streamEnd :: _ => (s.tokens.reverse, none)
      | _ => run fuel s

/-- What text may hold. -/
def isAllowed (c : Char) : Bool :=
  let n := c.toNat
  n = 9 || n = 10 || n = 13 || (0x20 ≤ n && n ≤ 0x7e) || n = 0x85 || (0xa0 ≤ n && n ≤ 0xd7ff) ||
    (0xe000 ≤ n && n ≤ 0xfffd) || 0x10000 ≤ n

/-- The tokens of a text, and what stops the reader before the end of it. -/
def tokensOf (text : Text) : List Token × Option Stop :=
  if text.all isAllowed then
    let text := if text.head? = some '\ufeff' then text.drop 1 else text
    run (text.length + 2) { cursor := { rest := text } }
  else ([], some (.problem .character))

end Lexer
end TypedCatalog.Yaml
