import TypedCatalog.CommandLine.Program

/-! The program as it is started: it reads the files that its arguments may name into a file tree,
runs on that tree, and writes what the run changed. Bodies of the replies of a service come from
standard input, one a line; a run that asks no service reads none. -/
namespace TypedCatalog.Disk

def nameOf (location : Location) : String := String.ofList (Path.ofLocation location).text

/-- What stands at a location, if it can be read. -/
def nodeAt? (location : Location) : IO (Option Node) := do
  try
    let path ← IO.FS.realPath (nameOf location)
    if ← path.isDir then return some .directory
    return some (.file (← IO.FS.readBinFile path).toList .zero)
  catch _ => return none

/-- The locations directly below a directory. -/
def locationsBelow (location : Location) : IO (List Location) := do
  try
    let entries ← (← IO.FS.realPath (nameOf location)).readDir
    return entries.toList.map fun entry => location ++ [entry.fileName.toList]
  catch _ => return []

def readNode (tree : FileTree) (location : Location) : IO FileTree := do
  match ← nodeAt? location with
  | none => return tree
  | some node => return tree.put location node

/-- Reads what a path leads through, where it leads, and what stands directly below. -/
def readAround (tree : FileTree) (path : Path) : IO FileTree := do
  let steps := (List.range path.names.length).map fun n =>
    Path.location [] { path with names := path.names.take (n + 1) }
  (steps ++ (← locationsBelow (path.location []))).foldlM readNode tree

/-- Writes what one tree holds and another does not. -/
def writeChanges (before after : FileTree) : IO Unit := do
  for (location, node) in after.nodes do
    if before.node? location ≠ some node then
      match node with
      | .directory => IO.FS.createDirAll (nameOf location)
      | .file content _ => IO.FS.writeBinFile (nameOf location) ⟨content.toArray⟩

/-- Replies with the bodies that are left on standard input. -/
partial def readReplies (input : IO.FS.Stream) : IO (List Reply) := do
  let line ← input.getLine
  if line.isEmpty then return []
  return .response { body := line.trimAsciiEnd.copy.toList } :: (← readReplies input)

end TypedCatalog.Disk

open TypedCatalog in
def main (arguments : List String) : IO UInt32 := do
  let texts := arguments.map String.toList
  let home := Path.ofText (← IO.currentDir).toString.toList
  let mentioned := (CommandLine.mentionedPaths texts).map home.append
  let files ← mentioned.foldlM Disk.readAround { home := home.names }
  let apiUrl := (← IO.getEnv "PRISM_API_URL").map String.toList
  let silent := CommandLine.program texts { files, apiUrl }
  let (ending, world) ←
    if silent.2.service.events.isEmpty then pure silent
    else do
      let replies ← Disk.readReplies (← IO.getStdin)
      pure (CommandLine.program texts { files, apiUrl, service := { replies } })
  Disk.writeChanges files world.files
  IO.print (String.ofList world.out)
  IO.eprint (String.ofList world.err)
  if let .fault fault := ending then IO.eprintln (String.ofList fault.message)
  return ending.code.toNat.toUInt32
