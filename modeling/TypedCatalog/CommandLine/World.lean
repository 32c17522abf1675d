import TypedCatalog.CommandLine.Arguments
import TypedCatalog.File.Tree
import TypedCatalog.Service.Client

/-! What a command finds and leaves: files, a service, the environment, and what it printed. -/
namespace TypedCatalog.CommandLine

structure World where
  files : FileTree
  service : Service := {}
  /-- The address that the environment names. -/
  apiUrl : Option Text := none
  out : Text := []
  err : Text := []

/-- How a command ends. -/
inductive Ending where
  | returned (code : Option Int)
  | exit (code : Int)
  /-- A message that ends the program. -/
  | quit (message : Text)
  | fault (fault : Fault)

/-- The code with which a program ends. -/
def Ending.code : Ending → Int
  | .returned code => code.getD 0
  | .exit code => code
  | .quit _ | .fault _ => 1

namespace World

def print (world : World) (line : Text) : World := { world with out := world.out ++ line ++ ['\n'] }

def complain (world : World) (line : Text) : World :=
  { world with err := world.err ++ line ++ ['\n'] }

/-- Shows notes, if they are to be shown. -/
def report (world : World) (isVerbose : Bool) (notes : List Note) : World :=
  if isVerbose then { world with err := world.err ++ notes.flatMap Note.line } else world

end World

def defaultUrl : Text := "http://localhost:8000"

/-- The address of the service: the one given, else that of the environment. -/
def urlOf (arguments : Arguments) (world : World) : Text :=
  (arguments.last? "--url").getD (world.apiUrl.getD defaultUrl)

def usage (name : Text) (interface : Interface) : Text :=
  let operands : List Text := if interface.takesOperands then ["[paths ...]"] else []
  let switches := interface.known.map fun switch => '[' :: switch.name ++ [']']
  "usage: " ++ Text.join [' '] (name :: switches ++ operands)

/-- Runs a command with its arguments, or shows its usage. -/
def withArguments (name : Text) (interface : Interface) (texts : List Text)
    (run : Arguments → World → Ending × World) (world : World) : Ending × World :=
  match interface.parse texts with
  | .ok arguments => run arguments world
  | .error .help => (.exit 0, world.print (usage name interface))
  | .error .misuse => (.exit 2, world.complain (usage name interface))

/-- Whether a fault is one of the catalog, the service or the files, and not of the program. -/
def isReported : Fault → Bool
  | .misuse _ | .content _ | .encoding | .nothingHeld => false
  | _ => true

def errorText (fault : Fault) : Text := "Error: " ++ fault.message

end TypedCatalog.CommandLine
