import TypedCatalog.Name

/-! TypeScript declarations and their text. -/
namespace TypedCatalog

structure Property where
  name : Text
  type : Text
  isOptional : Bool := false
  comment : Text := []
  deriving DecidableEq

inductive Declaration where
  | interface (name : Text) (properties : List Property)
  | synonym (name type : Text)
  /-- Members with the values they stand for. -/
  | enumeration (name : Text) (members : List (Text × Text))
  deriving DecidableEq

/-- A comment that cannot end early: a backslash parts the characters of its end mark. -/
def keepOpen : Text → Text
  | '*' :: '/' :: rest => '*' :: '\\' :: '/' :: keepOpen rest
  | c :: rest => c :: keepOpen rest
  | [] => []

namespace Property

def commentLines (property : Property) : List Text :=
  if property.comment = [] then []
  else ["  /** " ++ keepOpen property.comment ++ " */"]

def line (property : Property) : Text :=
  "  " ++ Name.propertyKey property.name ++ (if property.isOptional then ['?'] else []) ++ ": " ++
    property.type ++ [';']

def lines (property : Property) : List Text := property.commentLines ++ [property.line]

end Property

def memberLine (member : Text × Text) : Text :=
  "  " ++ member.1 ++ " = " ++ Json.literal member.2 ++ [',']

/-- Lines that each end. -/
def endLines (lines : List Text) : Text := lines.flatMap (· ++ ['\n'])

namespace Declaration

def name : Declaration → Text
  | interface name _ => name
  | synonym name _ => name
  | enumeration name _ => name

def lines : Declaration → List Text
  | interface name properties =>
    ("export interface " ++ name ++ " \x7b") :: properties.flatMap Property.lines ++ [['\x7d']]
  | synonym name type => ["export type " ++ name ++ " = " ++ type ++ [';']]
  | enumeration name members =>
    ("export enum " ++ name ++ " \x7b") :: members.map memberLine ++ [['\x7d']]

def text (declaration : Declaration) : Text := endLines declaration.lines

/-- Declarations with an empty line between them. -/
def joined (texts : List Text) : Text := Text.join ['\n'] texts

end Declaration
end TypedCatalog
