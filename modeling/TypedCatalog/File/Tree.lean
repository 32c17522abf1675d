import TypedCatalog.Fault
import TypedCatalog.File.Links
import TypedCatalog.Text.Utf8

/-! A tree of files. Operations on it fail as those of a file system do, and what they leave
untouched is the same tree. -/
namespace TypedCatalog

inductive Node where
  /-- The bytes of a file and the time of its last change. -/
  | file (content : List UInt8) (changed : Binary64)
  | directory
  deriving DecidableEq

structure FileTree where
  /-- Where paths start that are not absolute. -/
  home : Location
  nodes : List (Location × Node) := []
  /-- The time of the next change. -/
  clock : Nat := 0
  links : Links := .empty

/-- An action that may fail, and may have changed files before it does. -/
abbrev FileAction := ExceptT Fault (StateM FileTree)

namespace FileTree

/-- The longest name, in bytes. -/
def nameLimit : Nat := 255

/-- What stands at a location; the root is a directory. -/
def node? (tree : FileTree) (location : Location) : Option Node :=
  if location = [] then some .directory
  else (tree.nodes.find? fun entry => entry.1 == location).map (·.2)

def putNode (nodes : List (Location × Node)) (location : Location) (node : Node) :
    List (Location × Node) :=
  match nodes with
  | [] => [(location, node)]
  | (held, old) :: rest =>
    if held = location then (location, node) :: rest else (held, old) :: putNode rest location node

def put (tree : FileTree) (location : Location) (node : Node) : FileTree :=
  { tree with nodes := putNode tree.nodes location node }

/-- The time of the next change, as files tell it. -/
def now (tree : FileTree) : Binary64 := (Binary64.ofInt? tree.clock).getD .zero

/-- Follows names from a location, and from each place below a directory to where it lands. Each name
must be below a directory; the last may be missing. -/
def walkBy (tree : FileTree) (land : Location → Except FileProblem Location) :
    Location → List Text → Except FileProblem Location
  | here, [] => .ok here
  | here, name :: names =>
    match tree.node? here with
    | none => .error .missing
    | some (.file ..) => .error .notDirectory
    | some .directory =>
      if name = ['.', '.'] then walkBy tree land here.dropLast names
      else if nameLimit < Text.Utf8.size name then .error .nameTooLong
      else match land (here ++ [name]) with
        | .error problem => .error problem
        | .ok place => walkBy tree land place names

/-- Follows names through no link. -/
def walkDirectly (tree : FileTree) : Location → List Text → Except FileProblem Location :=
  tree.walkBy .ok

/-- The end of the link at a location, which is reached from the root, or the location itself. -/
def land (tree : FileTree) (location : Location) : Except FileProblem Location :=
  match tree.links.target? location with
  | none => .ok location
  | some names => tree.walkDirectly [] names

def walk (tree : FileTree) : Location → List Text → Except FileProblem Location :=
  tree.walkBy tree.land

/-- The location where a path starts. -/
def start (tree : FileTree) (path : Path) : Location := if path.isAbsolute then [] else tree.home

/-- Where a path leads, if its parent is a directory. -/
def locate (tree : FileTree) (path : Path) : Except FileProblem Location :=
  tree.walk (tree.start path) path.names

/-- Where the last name of a path stands, even if it is a link. -/
def locateEntry (tree : FileTree) (path : Path) : Except FileProblem Location :=
  match tree.walk (tree.start path) path.names.dropLast with
  | .error problem => .error problem
  | .ok here => tree.walkDirectly here path.names.getLast?.toList

def fail {α : Type} (path : Path) (problem : FileProblem) : Except Fault α :=
  .error (.file problem path.text)

def zeroByte {α : Type} : Except Fault α := .error (.content .zeroByte)

/-- The location of a path that leads to something, and what stands there. -/
def stat (tree : FileTree) (path : Path) : Except Fault (Location × Node) :=
  if path.hasZero then zeroByte
  else match tree.locate path with
    | .error problem => fail path problem
    | .ok location =>
      match tree.node? location with
      | none => fail path .missing
      | some node => .ok (location, node)

/-- What stands at a path, none if it leads nowhere. Only a name that is too long is a fault. -/
def find (tree : FileTree) (path : Path) : Except Fault (Option Node) :=
  match tree.stat path with
  | .ok (_, node) => .ok (some node)
  | .error (.file .nameTooLong text) => .error (.file .nameTooLong text)
  | .error _ => .ok none

/-- Where a path leads, whether its parent is a directory or not. -/
def location (tree : FileTree) (path : Path) : Location :=
  tree.links.follow (tree.start path) path.names

/-- The absolute path of a path, without dots and links. -/
def resolve (tree : FileTree) (path : Path) : Except Fault Path :=
  if path.hasZero then zeroByte else .ok (.ofLocation (tree.location path))

def readBytes (tree : FileTree) (path : Path) : Except Fault (List UInt8) :=
  match tree.stat path with
  | .error fault => .error fault
  | .ok (_, .directory) => fail path .directory
  | .ok (_, .file content _) => .ok content

/-- Every way to end a line becomes one. -/
def joinLineEnds : Text → Text
  | '\r' :: '\n' :: rest => '\n' :: joinLineEnds rest
  | '\r' :: rest => '\n' :: joinLineEnds rest
  | c :: rest => c :: joinLineEnds rest
  | [] => []

/-- The text of a file. -/
def readText (tree : FileTree) (path : Path) : Except Fault Text :=
  match tree.readBytes path with
  | .error fault => .error fault
  | .ok content =>
    match Text.Utf8.decode? content with
    | none => .error .encoding
    | some text => .ok (joinLineEnds text)

/-- Opens the file at a path for writing, and tells where it is. A file that is there loses its
content; one that is missing is made. -/
def openFile (tree : FileTree) (path : Path) : Except Fault (Location × FileTree) :=
  if path.hasZero then zeroByte
  else match tree.locate path with
    | .error problem => fail path problem
    | .ok location =>
      match tree.node? location with
      | some .directory => fail path .directory
      | _ => .ok (location, tree.put location (.file [] tree.now))

/-- What is left of a file behind its first bytes. -/
def behind (tree : FileTree) (location : Location) (size : Nat) : List UInt8 :=
  match tree.node? location with
  | some (.file content _) => content.drop size
  | _ => []

/-- Writes to the front of an open file, which another may have written to since it was opened. -/
def fill (tree : FileTree) (location : Location) (content : List UInt8) : FileTree :=
  let content := content ++ tree.behind location content.length
  { tree.put location (.file content tree.now) with clock := tree.clock + 1 }

/-- Puts a file at a path, in place of the one that is there. -/
def writeBytes (tree : FileTree) (path : Path) (content : List UInt8) : Except Fault FileTree :=
  match tree.openFile path with
  | .error fault => .error fault
  | .ok (location, tree) => .ok (tree.fill location content)

def writeText (tree : FileTree) (path : Path) (text : Text) : Except Fault FileTree :=
  tree.writeBytes path (Text.Utf8.encode text)

/-- Sets the time of the last change of a file. -/
def touch (tree : FileTree) (path : Path) (changed : Binary64) : Except Fault FileTree :=
  match tree.stat path with
  | .error fault => .error fault
  | .ok (location, .file content _) => .ok (tree.put location (.file content changed))
  | .ok (_, .directory) => .ok tree

/-- Removes the file that a path leads to. -/
def remove (tree : FileTree) (path : Path) : Except Fault FileTree :=
  match tree.stat path with
  | .error fault => .error fault
  | .ok (_, .directory) => fail path .directory
  | .ok (location, .file ..) =>
    .ok { tree with nodes := tree.nodes.filter fun entry => entry.1 ≠ location }

/-- Makes a directory where nothing stands, not even a link. -/
def createDirectory (tree : FileTree) (path : Path) : Except Fault FileTree :=
  if path.hasZero then zeroByte
  else match tree.locateEntry path with
    | .error problem => fail path problem
    | .ok location =>
      match tree.links.target? location, tree.node? location with
      | none, none => .ok (tree.put location .directory)
      | _, _ => fail path .present

/-- Makes a directory unless it is there already. -/
def ensureDirectory (tree : FileTree) (path : Path) : Except Fault FileTree :=
  match tree.createDirectory path with
  | .error (.file .missing text) => .error (.file .missing text)
  | .error (.file problem text) =>
    match tree.find path with
    | .error fault => .error fault
    | .ok (some .directory) => .ok tree
    | .ok _ => .error (.file problem text)
  | result => result

/-- Makes a directory and those above it that are missing. What it made stays if it fails. -/
def makeDirectories : (depth : Nat) → Path → FileAction Unit
  | 0, path => fun tree =>
    match tree.ensureDirectory path with
    | .ok tree => (.ok (), tree)
    | .error fault => (.error fault, tree)
  | depth + 1, path => fun tree =>
    match tree.ensureDirectory path with
    | .ok tree => (.ok (), tree)
    | .error (.file .missing text) =>
      if path.names = [] then (.error (.file .missing text), tree)
      else match makeDirectories depth path.parent tree with
        | (.error fault, tree) => (.error fault, tree)
        | (.ok (), tree) =>
          match tree.ensureDirectory path with
          | .ok tree => (.ok (), tree)
          | .error fault => (.error fault, tree)
    | .error fault => (.error fault, tree)

def makeDirectory (path : Path) : FileAction Unit := makeDirectories path.names.length path

/-- The name of a location directly below another. -/
def nameBelow? (location held : Location) : Option Text :=
  match held.getLast? with
  | none => none
  | some name => if held.dropLast = location then some name else none

/-- Names directly below a location. -/
def namesBelow (tree : FileTree) (location : Location) : List Text :=
  (tree.nodes.map (·.1) ++ tree.links.entries.map (·.1)).filterMap (nameBelow? location)

end FileTree

/-- An operation that yields a new tree, as an action. -/
def FileAction.change (operation : FileTree → Except Fault FileTree) : FileAction Unit :=
  fun tree =>
  match operation tree with
  | .ok tree => (.ok (), tree)
  | .error fault => (.error fault, tree)

end TypedCatalog
