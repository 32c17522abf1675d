import TypedCatalog.Text.CaseTable

/-! Small and capital forms of all scripts. A capital sigma at the end of a word has a small form
of its own; every other character is mapped without regard to its neighbours. -/
namespace TypedCatalog.Text

def moveBy (code : Nat) (distance : Int) : Char := Char.ofNat (code + distance).toNat

/-- The forms of one character: expansions first, then the runs, else the character itself. -/
def mapCase (expansions : List (Nat × List Nat)) (runs : List CaseRun) (c : Char) : Text :=
  match expansions.find? fun entry => entry.1 == c.toNat with
  | some (_, codes) => codes.map Char.ofNat
  | none =>
    match runs.find? fun run => run.holds c.toNat with
    | some run => [moveBy c.toNat run.distance]
    | none => [c]

def upperChar (c : Char) : Text :=
  if c.toNat < 0x80 then [upperAscii c] else mapCase upperExpansions upperRuns c

def lowerChar (c : Char) : Text :=
  if c.toNat < 0x80 then [lowerAscii c] else mapCase lowerExpansions lowerRuns c

def isCased (c : Char) : Bool := inRanges casedRanges c.toNat

def isCaseIgnorable (c : Char) : Bool := inRanges caseIgnorable c.toNat

/-- Whether the nearest character that counts is a letter with case. -/
def nextIsCased (text : Text) : Bool :=
  match text.dropWhile isCaseIgnorable with
  | [] => false
  | c :: _ => isCased c

/-- The small forms of a text whose earlier characters, nearest first, are given. -/
def lowerAfter (before : Text) : Text → Text
  | [] => []
  | c :: rest =>
    let form :=
      if c.toNat = 0x3a3 then
        if nextIsCased before && !nextIsCased rest then [Char.ofNat 0x3c2] else [Char.ofNat 0x3c3]
      else lowerChar c
    form ++ lowerAfter (c :: before) rest

def lower (text : Text) : Text := lowerAfter [] text

def upper (text : Text) : Text := text.flatMap upperChar

end TypedCatalog.Text
