import TypedCatalog.Catalog.Snapshot
import TypedCatalog.Proofs.Catalog.Plain
import TypedCatalog.Proofs.File.Change

/-! `Snapshot.parse` as a function of path and content, `parseBytes`. -/
namespace TypedCatalog.Snapshot

open Catalog
open FileTree (joinLineEnds)

/-- The schemas in the content of a file. -/
def parseBytes (path : Path) (content : List UInt8) : Except Fault (List Schema) :=
  match Text.Utf8.decode? content with
  | none => .error .encoding
  | some text =>
    match read path (joinLineEnds text) with
    | .error fault => .error fault
    | .ok data =>
      match documents data with
      | none => .error (.root path.text)
      | some documents => documents.mapM (schemaIn path)

variable {tree : FileTree} {path : Path} {location : Location} {changed : Binary64}

theorem parse_file {content : List UInt8}
    (stat : tree.stat path = .ok (location, .file content changed)) :
    parse tree path = parseBytes path content := by
  simp only [parse, load, parseBytes, FileTree.readText_of_stat stat]
  cases Text.Utf8.decode? content with
  | none => rfl
  | some text =>
    dsimp only
    cases read path (joinLineEnds text) with
    | error fault => rfl
    | ok data =>
      dsimp only
      cases documents data with
      | none => rfl
      | some documents => rfl

/-- `parse` fails on a directory. -/
theorem parse_directory (stat : tree.stat path = .ok (location, .directory)) :
    parse tree path =
      .error (.unreadable path.text (.file .directory path.text)) := by
  have unread : tree.readText path = FileTree.fail path .directory := by
    simp only [FileTree.readText, FileTree.readBytes, stat]
    rfl
  simp only [parse, load, unread, FileTree.fail]

/-- `schemaIn` succeeds exactly as `Schema.read` does. -/
theorem schemaIn_ok_iff {document : Value} {schema : Schema} :
    schemaIn path document = .ok schema ↔ Schema.read document = .ok schema := by
  unfold schemaIn
  split
  · rename_i failed
    simp [failed]
  · rfl

theorem read_empty (path : Path) :
    (∃ fault, read path [] = .error fault) ∨ read path [] = .ok .null := by
  unfold read
  split
  · exact .inl ⟨_, rfl⟩
  · exact .inr rfl

/-- `parseBytes` fails on the empty content. -/
theorem parseBytes_empty (path : Path) (schemas : List Schema) :
    parseBytes path [] ≠ .ok schemas := by
  intro parsed
  have decoded : Text.Utf8.decode? [] = some [] := rfl
  simp only [parseBytes, decoded, joinLineEnds] at parsed
  rcases read_empty path with ⟨fault, refused⟩ | empty
  · rw [refused] at parsed
    cases parsed
  · rw [empty] at parsed
    cases parsed

end TypedCatalog.Snapshot
