import TypedCatalog.Value.Access

/-! The arguments of a command: switches with and without a value, and operands. A switch may be
shortened to any start that tells it from the others, and its value may follow an equals sign. -/
namespace TypedCatalog.CommandLine

/-- What a switch takes. -/
inductive Kind where
  | help
  | flag
  | text
  | number
  | oneOf (choices : List Text)
  deriving DecidableEq

structure Switch where
  name : Text
  kind : Kind

/-- The switches of a command, and whether it takes operands. -/
structure Interface where
  switches : List Switch
  takesOperands : Bool := false

def helpSwitch : Switch := ⟨"--help", .help⟩

def shortHelp : Text := "-h"

/-- All switches: every command explains itself. -/
def Interface.known (interface : Interface) : List Switch := helpSwitch :: interface.switches

structure Arguments where
  /-- Names and values in the order in which they were given; a flag has an empty value. -/
  settings : List (Text × Text) := []
  operands : List Text := []

namespace Arguments

/-- The values of a switch. -/
def all (arguments : Arguments) (name : Text) : List Text :=
  (arguments.settings.filter fun setting => setting.1 == name).map (·.2)

/-- The value of a switch that was given last. -/
def last? (arguments : Arguments) (name : Text) : Option Text := (arguments.all name).getLast?

def has (arguments : Arguments) (name : Text) : Bool := !(arguments.all name).isEmpty

end Arguments

/-- Why a command does not run. -/
inductive Refusal where
  | help
  | misuse
  deriving DecidableEq

inductive Item where
  | operand (text : Text)
  /-- Two hyphens: what follows are operands. -/
  | separator
  | switch (switch : Switch) (value : Option Text)
  /-- The short switch for help, with characters after it. -/
  | cluster (rest : Text)
  | unknown

/-- Whether a text is a hyphen and a number. -/
def isNegative (text : Text) : Bool :=
  let text := (Text.before? ['\n'] text).getD text
  let areDigits (digits : Text) : Bool := digits.all fun c => (Text.digitValue? c).isSome
  match text with
  | '-' :: number =>
    match Text.cut? '.' number with
    | some (whole, fraction) => areDigits whole && fraction ≠ [] && areDigits fraction
    | none => number ≠ [] && areDigits number
  | _ => false

/-- The switch of a name, which may be the short one for help. -/
def Interface.find? (interface : Interface) (name : Text) : Option Switch :=
  if name = shortHelp then some helpSwitch
  else interface.known.find? fun switch => switch.name == name

/-- The name before an equals sign and the value behind it. -/
def cutValue (text : Text) : Text × Option Text :=
  match Text.cut? '=' text with
  | some (name, value) => (name, some value)
  | none => (text, none)

/-- What an argument is before any separator. -/
def Interface.item (interface : Interface) (text : Text) : Except Refusal Item :=
  let (name, value) := cutValue text
  let plain : Except Refusal Item :=
    .ok (if isNegative text || ' ' ∈ text then .operand text else .unknown)
  match text with
  | '-' :: second :: rest =>
    match interface.find? text, interface.find? name with
    | some switch, _ => .ok (.switch switch none)
    | none, some switch => .ok (.switch switch value)
    | none, none =>
      if second = '-' then
        match interface.known.filter fun switch => Text.startsWith name switch.name with
        | [] => plain
        | [switch] => .ok (.switch switch value)
        | _ => .error .misuse
      else if second = 'h' then .ok (.cluster rest)
      else plain
  | _ => .ok (.operand text)

def Interface.items (interface : Interface) : List Text → Except Refusal (List Item)
  | [] => .ok []
  | text :: texts =>
    if text = ['-', '-'] then .ok (.separator :: texts.map .operand)
    else do
      let item ← interface.item text
      return item :: (← interface.items texts)

structure Progress where
  settings : List (Text × Text) := []
  operands : Option (List Text) := none
  /-- Whether something came that the command does not take. -/
  hasExtra : Bool := false

def isOperand : Item → Bool
  | .operand _ | .separator => true
  | _ => false

def operandText? : Item → Option Text
  | .operand text => some text
  | _ => none

/-- Whether a switch takes a value. -/
def accepts (kind : Kind) (value : Text) : Bool :=
  match kind with
  | .help | .flag => false
  | .text => true
  | .number =>
    match Value.integerIn value with
    | .ok _ => true
    | .error _ => false
  | .oneOf choices => choices.contains value

def Progress.set (progress : Progress) (switch : Switch) (value : Text) : Except Refusal Progress :=
  if accepts switch.kind value then
    .ok { progress with settings := progress.settings ++ [(switch.name, value)] }
  else .error .misuse

/-- What comes of characters after the short switch for help: more of the same, or nothing that
could be taken. -/
def clusterRefusal : Text → Refusal
  | [] => .help
  | '-' :: _ => .misuse
  | 'h' :: '=' :: _ => .misuse
  | 'h' :: rest => clusterRefusal rest
  | _ => .help

/-- Takes items from left to right. Operands are taken once, as many as stand together. -/
def Interface.take (interface : Interface) : (fuel : Nat) → List Item → Progress →
    Except Refusal Progress
  | 0, _, progress => .ok progress
  | _, [], progress => .ok progress
  | fuel + 1, item :: items, progress =>
    match item with
    | .operand _ | .separator =>
      let group := (item :: items).takeWhile isOperand
      let rest := (item :: items).dropWhile isOperand
      if interface.takesOperands && progress.operands.isNone then
        interface.take fuel rest { progress with operands := some (group.filterMap operandText?) }
      else interface.take fuel rest { progress with hasExtra := true }
    | .unknown => interface.take fuel items { progress with hasExtra := true }
    | .cluster rest => .error (clusterRefusal rest)
    | .switch switch (some value) => do
      interface.take fuel items (← progress.set switch value)
    | .switch switch none =>
      match switch.kind, items with
      | .help, _ => .error .help
      | .flag, _ =>
        interface.take fuel items
          { progress with settings := progress.settings ++ [(switch.name, [])] }
      | _, .operand value :: items => do
        interface.take fuel items (← progress.set switch value)
      | _, _ => .error .misuse

/-- The arguments of a command. -/
def Interface.parse (interface : Interface) (texts : List Text) : Except Refusal Arguments := do
  let items ← interface.items texts
  let progress ← interface.take items.length items {}
  if progress.hasExtra then throw .misuse
  return { settings := progress.settings, operands := progress.operands.getD [] }

end TypedCatalog.CommandLine
