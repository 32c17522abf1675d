import TypedCatalog.Proofs.Catalog.Cache

/-! Runs of one cache over changing files, and transparency: a cache returns what `Snapshot.parse`
yields for some earlier content with the current stamp, and what a fresh cache returns under
`TellsApart`. -/
namespace TypedCatalog

open Catalog

/-- A cache in use, with all file trees so far. -/
structure CacheRun where
  files : FileTree
  cache : SchemaCache
  past : List FileTree

namespace CacheRun

inductive Action where
  | write (path : Path) (content : List UInt8)
  | touch (path : Path) (changed : Binary64)
  | remove (path : Path)
  | makeDirectory (path : Path)
  | get (path : Path)
  | getAll (paths : List Path)
  | forget (path : Path)
  | clear

/-- A run with an empty cache. -/
def start (files : FileTree) (limit : Int) : CacheRun := ⟨files, { limit }, [files]⟩

/-- A change of the files, which may also be the effect of a failing action. -/
def change (run : CacheRun) (action : FileAction Unit) : CacheRun :=
  let after := (action run.files).2
  { run with files := after, past := run.past ++ [after] }

def get (run : CacheRun) (path : Path) : Except Fault (List Schema) :=
  (run.cache.get run.files path).1

def getAll (run : CacheRun) (paths : List Path) : Except Fault (List Schema) :=
  (SchemaCache.getAll run.files paths run.cache).1

/-- The same files with an empty cache. -/
def fresh (run : CacheRun) : CacheRun := { run with cache := { limit := run.cache.limit } }

def step (run : CacheRun) : Action → CacheRun
  | .write path content => run.change (.change fun files => files.writeBytes path content)
  | .touch path changed => run.change (.change fun files => files.touch path changed)
  | .remove path => run.change (.change fun files => files.remove path)
  | .makeDirectory path => run.change (FileTree.makeDirectory path)
  | .get path => { run with cache := (run.cache.get run.files path).2 }
  | .getAll paths => { run with cache := (SchemaCache.getAll run.files paths run.cache).2 }
  | .forget path =>
    match run.cache.forget run.files path with
    | .ok cache => { run with cache }
    | .error _ => run
  | .clear => { run with cache := run.cache.clear }

def steps (run : CacheRun) (actions : List Action) : CacheRun := actions.foldl step run

/-- State invariant of a run. -/
structure IsSound (run : CacheRun) : Prop where
  home : run.files.HasHome
  present : run.files ∈ run.past
  held : run.cache.IsFrom run.past
  room : 1 ≤ run.cache.limit

variable {run : CacheRun}

theorem IsSound.change (sound : run.IsSound) {action : FileAction Unit}
    (keeps : run.files.KeepsDirectories (action run.files).2) : (run.change action).IsSound := by
  constructor
  · exact keeps.hasHome sound.home
  · exact List.mem_append_right _ (List.mem_singleton.mpr rfl)
  · intro entry member
    exact (sound.held entry member).mono (List.subset_append_left _ _)
  · exact sound.room

theorem IsSound.fresh (sound : run.IsSound) : run.fresh.IsSound :=
  ⟨sound.home, sound.present, SchemaCache.isFrom_new _ _, sound.room⟩

theorem isSound_start {files : FileTree} {limit : Int} (home : files.HasHome) (room : 1 ≤ limit) :
    (start files limit).IsSound :=
  ⟨home, List.mem_singleton.mpr rfl, SchemaCache.isFrom_new _ _, room⟩

theorem IsSound.step (sound : run.IsSound) (action : Action) : (run.step action).IsSound := by
  have ⟨home, present, held, room⟩ := sound
  cases action with
  | write path content =>
    exact sound.change (FileTree.keeps_change fun _ => FileTree.keeps_writeBytes)
  | touch path changed =>
    exact sound.change (FileTree.keeps_change fun _ => FileTree.keeps_touch)
  | remove path => exact sound.change (FileTree.keeps_change fun _ => FileTree.keeps_remove)
  | makeDirectory path => exact sound.change (FileTree.keeps_makeDirectory path _)
  | get path =>
    refine ⟨home, present, SchemaCache.isFrom_get path home present held, ?_⟩
    change 1 ≤ (run.cache.get run.files path).2.limit
    rwa [SchemaCache.limit_get]
  | getAll paths =>
    have ⟨after, limit⟩ := SchemaCache.isFrom_getAll paths home present held
    exact ⟨home, present, after, limit ▸ room⟩
  | forget path =>
    simp only [CacheRun.step]
    split
    · rename_i cache forgot
      obtain ⟨resolved, _, same⟩ := bind_ok forgot
      cases same
      refine ⟨home, present, ?_, room⟩
      intro entry member
      exact held entry (List.mem_filter.mp member).1
    · exact sound
  | clear => exact ⟨home, present, SchemaCache.isFrom_new _ _, room⟩

theorem IsSound.steps (sound : run.IsSound) (actions : List Action) :
    (run.steps actions).IsSound := by
  induction actions generalizing run with
  | nil => exact sound
  | cons action actions ih => exact ih (sound.step action)

/-- State invariant over every sequence of actions. A successful `get` returns what an earlier tree
of the run parses from a file with the same location, size and time. Under `TellsApart`, `get` and
`getAll` agree with a fresh cache. -/
theorem steps_transparent {files : FileTree} {limit : Int} (home : files.HasHome)
    (room : 1 ≤ limit) (actions : List Action) :
    let run := (start files limit).steps actions
    (∀ path schemas, run.get path = .ok schemas →
      ∃ location content changed old, run.files.stat path = .ok (location, .file content changed) ∧
        old.length = content.length ∧ ∃ before ∈ run.past,
          before.stat (.ofLocation location) = .ok (location, .file old changed) ∧
          Snapshot.parse before (.ofLocation location) = .ok schemas) ∧
    (TellsApart run.past → (∀ path, run.get path = run.fresh.get path) ∧
      ∀ paths, run.getAll paths = run.fresh.getAll paths) := by
  intro run
  have sound : run.IsSound := (isSound_start home room).steps actions
  have new := sound.fresh
  constructor
  · intro path schemas
    exact SchemaCache.get_past sound.home sound.present sound.held
  · intro apart
    constructor
    · intro path
      exact (SchemaCache.get_direct sound.room sound.home sound.present apart sound.held).trans
        (SchemaCache.get_direct new.room new.home new.present apart new.held).symm
    · intro paths
      exact (SchemaCache.getAll_direct sound.room sound.home sound.present apart sound.held).trans
        (SchemaCache.getAll_direct new.room new.home new.present apart new.held).symm

/-- Limit one, with two files that evict each other. -/
def crowded : List Action :=
  let first : Path := ⟨true, ["a.json"]⟩
  let second : Path := ⟨true, ["b.json"]⟩
  let text (blanks : Nat) : List UInt8 := [0x5b] ++ List.replicate blanks 0x20 ++ [0x5d]
  [.write first (text 0), .write second (text 1), .getAll [first, second, first],
    .write first (text 2), .get first]

theorem crowded_transparent :
    let run := (start { home := [] } 1).steps crowded
    FileTree.HasHome { home := [] } ∧ TellsApart run.past ∧
      run.getAll [⟨true, ["b.json"]⟩, ⟨true, ["a.json"]⟩] =
        run.fresh.getAll [⟨true, ["b.json"]⟩, ⟨true, ["a.json"]⟩] := by
  have home : FileTree.HasHome { home := [] } := rfl
  have apart : TellsApart ((start { home := [] } 1).steps crowded).past :=
    tellsApart_of_sizes (by decide +kernel)
  exact ⟨home, apart, ((steps_transparent home (Int.le_refl 1) crowded).2 apart).2 _⟩

end CacheRun
end TypedCatalog
