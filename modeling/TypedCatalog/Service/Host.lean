import TypedCatalog.Fault

/-! Hosts of addresses. A host in brackets is a numeric address, and no character of a host may
stand for a mark that ends a host. -/
namespace TypedCatalog.Host

/-- A decimal number below 256 without leading zeros. -/
def isOctet (text : Text) : Bool :=
  text ≠ [] && text.length ≤ 3 && text.all Text.isDigit &&
    (text.length = 1 || text.head? ≠ some '0') &&
    text.foldl (fun n c => 10 * n + (c.toNat - 48)) 0 ≤ 255

/-- Four octets between points. -/
def isFourPart (text : Text) : Bool :=
  let parts := Text.splitOn '.' text
  parts.length = 4 && parts.all isOctet

/-- One to four hexadecimal digits. -/
def isGroup (text : Text) : Bool :=
  text ≠ [] && text.length ≤ 4 && text.all fun c => (Text.hexValue? c).isSome

/-- Groups between colons; four octets at the end stand for two groups. -/
def groupsOf (text : Text) : List Text :=
  let parts := Text.splitOn ':' text
  if (parts.getLast?.map isFourPart).getD false then parts.dropLast ++ [['0'], ['0']] else parts

/-- The parts around the first pair of colons. -/
def cutPair? : Text → Option (Text × Text)
  | [] => none
  | ':' :: ':' :: rest => some ([], rest)
  | c :: rest => (cutPair? rest).map fun (before, after) => (c :: before, after)

/-- Eight groups, or fewer where a pair of colons stands for the zeros that are missing. -/
def isEightPart (text : Text) : Bool :=
  match cutPair? text with
  | none => (groupsOf text).length = 8 && (groupsOf text).all isGroup
  | some (before, after) =>
    let left := if before = [] then [] else Text.splitOn ':' before
    let right := if after = [] then [] else groupsOf after
    left.length + right.length ≤ 7 && (left ++ right).all isGroup

/-- Eight groups with the name of a zone after a percent sign, or without one. -/
def isZoned (text : Text) : Bool :=
  match Text.cut? '%' text with
  | none => isEightPart text
  | some (address, zone) => zone ≠ [] && '%' ∉ zone && isEightPart address

/-- A letter, a hexadecimal version, a point and more. -/
def isLaterForm (text : Text) : Bool :=
  match Text.cut? '.' text with
  | some ('v' :: version, rest) =>
    version ≠ [] && version.all (fun c => (Text.hexValue? c).isSome) && rest ≠ []
  | _ => false

/-- What may stand in brackets. -/
def checkBracketed (text : Text) : Except Fault Unit :=
  if text.head? = some 'v' then
    if isLaterForm text then .ok () else .error (.content .laterHost)
  else if isFourPart text then .error (.content .fourPartHost)
  else if isZoned text then .ok ()
  else .error (.content (.numericHost text))

/-- Characters that stand for a slash, a question mark, a number sign, an at sign or a colon, alone
or among others. -/
def disguises : List Nat :=
  [0x2047, 0x2048, 0x2049, 0x2100, 0x2101, 0x2105, 0x2106, 0x2a74, 0xfe13, 0xfe16, 0xfe55, 0xfe56,
    0xfe5f, 0xfe6b, 0xff03, 0xff0f, 0xff1a, 0xff1f, 0xff20]

def isDisguise (c : Char) : Bool := disguises.contains c.toNat

/-- Whether a host with everything around it can be one. -/
def check (host : Text) : Except Fault Unit := do
  if ('[' ∈ host) ≠ (']' ∈ host) then throw (.content .openHost)
  match Text.cut? '[' host with
  | none => pure ()
  | some (_, rest) => checkBracketed (rest.takeWhile (· ≠ ']'))
  if host.any isDisguise then throw (.content (.disguisedHost host))

end TypedCatalog.Host
