import TypedCatalog.Catalog.Snapshot

/-! Schemas of the snapshots that were read before, each as long as its file looks the same. -/
namespace TypedCatalog

open Catalog

/-- What tells whether a file is still the same. -/
structure Stamp where
  path : Path
  changed : Binary64
  size : Nat
  deriving DecidableEq

def Stamp.ofPath (tree : FileTree) (path : Path) : Except Fault Stamp := do
  let (_, node) ← tree.stat path
  let resolved ← tree.resolve path
  return match node with
    | .file content changed => ⟨resolved, changed, content.length⟩
    | .directory => ⟨resolved, .zero, 0⟩

structure CachedSnapshot where
  stamp : Stamp
  schemas : List Schema

/-- At most `limit` snapshots, the one that was read first in front. -/
structure SchemaCache where
  limit : Int := 100
  held : List CachedSnapshot := []

namespace SchemaCache

def paths (cache : SchemaCache) : List Path := cache.held.map (·.stamp.path)

def find? (cache : SchemaCache) (path : Path) : Option CachedSnapshot :=
  cache.held.find? fun entry => entry.stamp.path = path

/-- Holds a snapshot as the newest one; without room the oldest other one goes. -/
def insert (cache : SchemaCache) (entry : CachedSnapshot) : Except Fault Unit × SchemaCache :=
  let others := cache.held.filter fun held => held.stamp.path ≠ entry.stamp.path
  if others.length < cache.limit then (.ok (), { cache with held := others ++ [entry] })
  else match others with
    | [] => (.error .nothingHeld, { cache with held := [] })
    | _ :: rest => (.ok (), { cache with held := rest ++ [entry] })

/-- The schemas of a file, read again only if the file does not look the same. -/
def get (tree : FileTree) (path : Path) (cache : SchemaCache) :
    Except Fault (List Schema) × SchemaCache :=
  match Stamp.ofPath tree path with
  | .error fault => (.error fault, cache)
  | .ok stamp =>
    match (cache.find? stamp.path).filter fun entry => entry.stamp = stamp with
    | some entry => (.ok entry.schemas, cache)
    | none =>
      match Snapshot.parse tree stamp.path with
      | .error fault => (.error fault, cache)
      | .ok schemas =>
        let (result, cache) := cache.insert ⟨stamp, schemas⟩
        (result.map fun () => schemas, cache)

/-- The schemas of several files, in their order. -/
def getAll (tree : FileTree) : List Path → SchemaCache → Except Fault (List Schema) × SchemaCache
  | [], cache => (.ok [], cache)
  | path :: paths, cache =>
    match cache.get tree path with
    | (.error fault, cache) => (.error fault, cache)
    | (.ok schemas, cache) =>
      let (result, cache) := getAll tree paths cache
      (result.map (schemas ++ ·), cache)

def clear (cache : SchemaCache) : SchemaCache := { cache with held := [] }

/-- Forgets a file. -/
def forget (tree : FileTree) (path : Path) (cache : SchemaCache) : Except Fault SchemaCache := do
  let resolved ← tree.resolve path
  return { cache with held := cache.held.filter fun entry => entry.stamp.path ≠ resolved }

end SchemaCache
end TypedCatalog
