import TypedCatalog.Json.Writer
import TypedCatalog.Text.Blank

/-! Names for declarations, members, properties and modules, made from the names of catalog
objects. -/
namespace TypedCatalog.Name

def capitalize : Text → Text
  | [] => []
  | c :: rest => Text.upperAscii c :: rest.map Text.lowerAscii

/-- The words of a name, each with a capital first letter and small ones after it. -/
def pascal (name : Text) : Text :=
  (Text.wordsBy (fun c => !Text.isAlnum c) name).flatMap capitalize

/-- As `pascal`, with a small first letter. -/
def camel (name : Text) : Text :=
  match pascal name with
  | [] => []
  | c :: rest => Text.lowerAscii c :: rest

def isMemberChar (c : Char) : Bool := Text.isAlnum c || c = '_'

/-- An identifier for an enumeration value: other characters become underscores, and an underscore
stands before a leading digit or for an empty value. -/
def enumMember (value : Text) : Text :=
  match value.map fun c => if isMemberChar c then c else '_' with
  | [] => ['_']
  | c :: rest => if Text.isDigit c then '_' :: c :: rest else c :: rest

def isIdentifierStart (c : Char) : Bool :=
  Text.isLower c || Text.isUpper c || c = '_' || c = '$'

def isIdentifierChar (c : Char) : Bool := Text.isAlnum c || c = '_' || c = '$'

def isIdentifier : Text → Bool
  | [] => false
  | c :: rest => isIdentifierStart c && rest.all isIdentifierChar

/-- A property key: an identifier as it is, anything else quoted. -/
def propertyKey (name : Text) : Text :=
  if isIdentifier name then name else Json.literal name

def isModuleChar (c : Char) : Bool := Text.isAlnum c || c = '_' || c = '-'

/-- The name of the module that holds a schema, safe as a file name. -/
def moduleName (schema : Text) : Text :=
  "types-" ++ schema.map fun c => if isModuleChar c then c else '_'

end TypedCatalog.Name
