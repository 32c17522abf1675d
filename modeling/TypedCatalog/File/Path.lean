import TypedCatalog.Text.Case

/-! Paths as they are written: names between slashes. Empty names and single dots say nothing and
are dropped; two dots stay, because what they mean depends on the file tree. -/
namespace TypedCatalog

structure Path where
  isAbsolute : Bool
  names : List Text
  deriving DecidableEq

/-- The names that lead from the root of a file tree to a place in it. -/
abbrev Location := List Text

namespace Path

def ofText (text : Text) : Path :=
  { isAbsolute := text.head? = some '/'
    names := (Text.splitOn '/' text).filter fun name => name ≠ [] && name ≠ ['.'] }

def ofLocation (location : Location) : Path := ⟨true, location⟩

def text (path : Path) : Text :=
  let names := Text.join ['/'] path.names
  if path.isAbsolute then '/' :: names
  else if path.names = [] then ['.']
  else names

/-- A path that starts where another leads. An absolute path starts at the root. -/
def append (base path : Path) : Path :=
  if path.isAbsolute then path else { base with names := base.names ++ path.names }

/-- A name below a path. -/
def below (directory : Path) (name : Text) : Path :=
  { directory with names := directory.names ++ [name] }

def parent (path : Path) : Path := { path with names := path.names.dropLast }

def name (path : Path) : Text := path.names.getLastD []

/-- The last dot of a name and what follows it, unless one of them stands alone. -/
def suffixOf (name : Text) : Text :=
  let extension := (name.reverse.takeWhile (· ≠ '.')).reverse
  let stem := ((name.reverse.dropWhile (· ≠ '.')).drop 1).reverse
  if extension = [] || stem = [] then [] else '.' :: extension

/-- The suffix of the last name, in small letters. -/
def suffix (path : Path) : Text := Text.lower (suffixOf path.name)

/-- Where names lead from a location, two dots leading back. -/
def follow : Location → List Text → Location
  | location, [] => location
  | location, name :: names =>
    if name = ['.', '.'] then follow location.dropLast names else follow (location ++ [name]) names

/-- Where a path leads from a home directory in a tree without links. -/
def location (home : Location) (path : Path) : Location :=
  follow (if path.isAbsolute then [] else home) path.names

/-- No name in a file tree holds a zero character. -/
def hasZero (path : Path) : Bool := path.names.any fun name => name.any (·.toNat = 0)

end Path
end TypedCatalog
