import TypedCatalog.File.Tree
import TypedCatalog.Proofs.Fault

/-! File operations raise file-system faults or the fault of a zero character only. -/
namespace TypedCatalog

/-- A file-system fault, or a path with a zero character. -/
inductive Fault.IsOfFile : Fault → Prop where
  | file (problem : FileProblem) (path : Text) : IsOfFile (.file problem path)
  | zeroByte : IsOfFile (.content .zeroByte)

abbrev FailsAsFile {α : Type} (result : Except Fault α) : Prop := FailsOnly Fault.IsOfFile result

namespace FileTree

theorem fails_fail {α : Type} (path : Path) (problem : FileProblem) :
    FailsAsFile (fail path problem : Except Fault α) := .error (.file problem path.text)

theorem fails_zeroByte {α : Type} : FailsAsFile (zeroByte : Except Fault α) := .error .zeroByte

variable (tree : FileTree) (path : Path)

/-- Operations that locate a path first. -/
theorem fails_located {α : Type} {next : Location → Except Fault α}
    (each : ∀ location, FailsAsFile (next location)) :
    FailsAsFile (if path.hasZero then zeroByte
      else match tree.locate path with
        | .error problem => fail path problem
        | .ok location => next location) := by
  refine .ite fails_zeroByte ?_
  split
  · exact fails_fail _ _
  · exact each _

theorem fails_stat : FailsAsFile (tree.stat path) := by
  refine fails_located tree path fun location => ?_
  split
  · exact fails_fail _ _
  · exact .ok _

theorem fails_find : FailsAsFile (tree.find path) := by
  unfold find
  split
  · exact .ok _
  · exact .error (.file _ _)
  · exact .ok _

theorem fails_openFile : FailsAsFile (tree.openFile path) := by
  refine fails_located tree path fun location => ?_
  split
  · exact fails_fail _ _
  · exact .ok _

theorem fails_writeText (text : Text) : FailsAsFile (tree.writeText path text) := by
  unfold writeText writeBytes
  split
  · rename_i fault failed
    exact .error ((fails_openFile tree path).allows failed)
  · exact .ok _

theorem fails_createDirectory : FailsAsFile (tree.createDirectory path) := by
  unfold createDirectory
  refine .ite fails_zeroByte ?_
  split
  · exact fails_fail _ _
  · split
    · exact .ok _
    · exact fails_fail _ _

theorem fails_ensureDirectory : FailsAsFile (tree.ensureDirectory path) := by
  unfold ensureDirectory
  split
  · exact .error (.file _ _)
  · split
    · rename_i fault failed
      exact .error ((fails_find tree path).allows failed)
    · exact .ok _
    · exact .error (.file _ _)
  · exact fails_createDirectory tree path

theorem fails_makeDirectories (depth : Nat) :
    ActionFailsOnly Fault.IsOfFile (makeDirectories depth path) := by
  have ensured {fault : Fault} {tree : FileTree} {path : Path}
      (failed : tree.ensureDirectory path = .error fault) : fault.IsOfFile :=
    (fails_ensureDirectory tree path).allows failed
  induction depth generalizing path with
  | zero =>
    intro tree
    unfold makeDirectories
    split
    · exact .ok ()
    · rename_i fault failed
      exact .error (ensured failed)
  | succ depth ih =>
    intro tree
    unfold makeDirectories
    split
    · exact .ok ()
    · split
      · exact .error (.file _ _)
      · have above := ih path.parent tree
        split
        · rename_i fault after failed
          rw [failed] at above
          exact above
        · split
          · exact .ok ()
          · rename_i fault failed
            exact .error (ensured failed)
    · rename_i fault _ failed
      exact .error (ensured failed)

end FileTree

theorem FileAction.fails_change {allowed : Fault → Prop}
    {operation : FileTree → Except Fault FileTree}
    (each : ∀ tree, FailsOnly allowed (operation tree)) :
    ActionFailsOnly allowed (FileAction.change operation) := by
  intro tree
  unfold FileAction.change
  split
  · exact .ok ()
  · rename_i fault failed
    exact .error ((each tree).allows failed)

end TypedCatalog
