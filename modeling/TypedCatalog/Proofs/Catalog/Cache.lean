import TypedCatalog.Catalog.Cache
import TypedCatalog.Proofs.Catalog.Snapshot

/-! Soundness of `SchemaCache.get`: what it returns was parsed from a content with the current
stamp. If stamps determine contents (`TellsApart`), it agrees with `direct`, which uses no cache. -/
namespace TypedCatalog

open Catalog

/-- The `Stamp` of a file. -/
def Stamp.ofFile (location : Location) (content : List UInt8) (changed : Binary64) : Stamp :=
  ⟨.ofLocation location, changed, content.length⟩

/-- The `Stamp` of a node. -/
def Stamp.ofNode (location : Location) : Node → Stamp
  | .file content changed => .ofFile location content changed
  | .directory => ⟨.ofLocation location, .zero, 0⟩

theorem Stamp.path_ofNode (location : Location) (node : Node) :
    (Stamp.ofNode location node).path = .ofLocation location := by
  cases node with
  | file content changed => rfl
  | directory => rfl

theorem Stamp.ofPath_ok {tree : FileTree} {path : Path} {stamp : Stamp} (home : tree.HasHome)
    (stamped : Stamp.ofPath tree path = .ok stamp) :
    ∃ location node, tree.stat path = .ok (location, node) ∧
      tree.stat (.ofLocation location) = .ok (location, node) ∧ stamp = .ofNode location node := by
  unfold Stamp.ofPath at stamped
  obtain ⟨⟨location, node⟩, stat, stamped⟩ := bind_ok stamped
  obtain ⟨resolves, again⟩ := home.resolve stat
  rw [resolves] at stamped
  refine ⟨location, node, stat, again, ?_⟩
  cases node with
  | file content changed => exact (Except.ok.inj stamped).symm
  | directory => exact (Except.ok.inj stamped).symm

/-- Some tree of the past has this file at the location. -/
def HeldFile (past : List FileTree) (location : Location) (content : List UInt8)
    (changed : Binary64) : Prop :=
  ∃ tree ∈ past, tree.stat (.ofLocation location) = .ok (location, .file content changed)

/-- Location, size and modification time determine the content. -/
def TellsApart (past : List FileTree) : Prop :=
  ∀ location changed first second, HeldFile past location first changed →
    HeldFile past location second changed → first.length = second.length → first = second

/-- Some tree of the past has a file with the stamp of the entry that parses to its schemas. -/
def CachedSnapshot.ComesFrom (past : List FileTree) (entry : CachedSnapshot) : Prop :=
  ∃ location content changed, HeldFile past location content changed ∧
    entry.stamp = .ofFile location content changed ∧
    Snapshot.parseBytes (.ofLocation location) content = .ok entry.schemas

/-- The sizes differ or the contents are equal. -/
def differBySize : Node → Node → Bool
  | .file first _, .file second _ => first.length ≠ second.length || first = second
  | _, _ => true

theorem tellsApart_of_sizes {past : List FileTree}
    (sizes : ∀ first ∈ past.flatMap (·.nodes), ∀ second ∈ past.flatMap (·.nodes),
      differBySize first.2 second.2 = true) : TellsApart past := by
  have member {location content changed} (held : HeldFile past location content changed) :
      (location, .file content changed) ∈ past.flatMap (·.nodes) := by
    obtain ⟨tree, inside, stat⟩ := held
    exact List.mem_flatMap.mpr ⟨tree, inside, FileTree.mem_nodes (FileTree.stat_ok stat).2.2⟩
  intro location changed first second held other same
  have differ := sizes _ (member held) _ (member other)
  simpa [differBySize, same] using differ

/-- A single tree has one content at each location. -/
theorem tellsApart_single (tree : FileTree) : TellsApart [tree] := by
  rintro location changed first second ⟨_, member, stat⟩ ⟨_, other, again⟩ -
  cases List.mem_singleton.mp member
  cases List.mem_singleton.mp other
  cases stat.symm.trans again
  rfl

theorem HeldFile.mono {past more : List FileTree} {location : Location} {content : List UInt8}
    {changed : Binary64} (held : HeldFile past location content changed) (subset : past ⊆ more) :
    HeldFile more location content changed := by
  obtain ⟨tree, member, stands⟩ := held
  exact ⟨tree, subset member, stands⟩

theorem CachedSnapshot.ComesFrom.mono {past more : List FileTree} {entry : CachedSnapshot}
    (comes : entry.ComesFrom past) (subset : past ⊆ more) : entry.ComesFrom more := by
  obtain ⟨location, content, changed, held, stamped, parsed⟩ := comes
  exact ⟨location, content, changed, held.mono subset, stamped, parsed⟩

namespace SchemaCache

variable {tree : FileTree} {path : Path} {cache : SchemaCache} {entry : CachedSnapshot}
  {past : List FileTree}

theorem mem_insert {other : CachedSnapshot} (member : other ∈ (cache.insert entry).2.held) :
    other ∈ cache.held ∨ other = entry := by
  unfold insert at member
  dsimp only at member
  split at member
  · rcases List.mem_append.mp member with inside | inside
    · exact .inl (List.mem_filter.mp inside).1
    · exact .inr (List.mem_singleton.mp inside)
  · split at member
    · cases member
    · rename_i oldest rest shape
      rcases List.mem_append.mp member with inside | inside
      · have kept : other ∈ oldest :: rest := List.mem_cons_of_mem _ inside
        rw [← shape] at kept
        exact .inl (List.mem_filter.mp kept).1
      · exact .inr (List.mem_singleton.mp inside)

theorem limit_insert : (cache.insert entry).2.limit = cache.limit := by
  unfold insert
  dsimp only
  split
  · rfl
  · split
    · rfl
    · rfl

/-- `insert` succeeds with a positive limit. -/
theorem insert_ok (room : 1 ≤ cache.limit) : (cache.insert entry).1 = .ok () := by
  unfold insert
  dsimp only
  split
  · rfl
  · rename_i full
    split
    · rename_i empty
      rw [empty] at full
      exact absurd (Int.lt_of_lt_of_le Int.zero_lt_one room) full
    · rfl

/-- The outcomes of `get`: no stamp, a hit, a fault of parsing, or an inserted snapshot. -/
inductive Got (tree : FileTree) (path : Path) (cache : SchemaCache) :
    Except Fault (List Schema) × SchemaCache → Prop where
  | unseen {fault : Fault} : Stamp.ofPath tree path = .error fault →
      Got tree path cache (.error fault, cache)
  | held {entry : CachedSnapshot} : Stamp.ofPath tree path = .ok entry.stamp →
      entry ∈ cache.held → Got tree path cache (.ok entry.schemas, cache)
  | refused {stamp : Stamp} {fault : Fault} : Stamp.ofPath tree path = .ok stamp →
      Snapshot.parse tree stamp.path = .error fault → Got tree path cache (.error fault, cache)
  | read {stamp : Stamp} {schemas : List Schema} : Stamp.ofPath tree path = .ok stamp →
      Snapshot.parse tree stamp.path = .ok schemas →
      Got tree path cache ((cache.insert ⟨stamp, schemas⟩).1.map fun () => schemas,
        (cache.insert ⟨stamp, schemas⟩).2)

theorem got (tree : FileTree) (path : Path) (cache : SchemaCache) :
    Got tree path cache (cache.get tree path) := by
  unfold get
  split
  · rename_i fault stamped
    exact .unseen stamped
  · rename_i stamp stamped
    split
    · rename_i entry found
      obtain ⟨found, same⟩ := Option.filter_eq_some_iff.mp found
      have same := of_decide_eq_true same
      subst same
      exact .held stamped (List.mem_of_find?_eq_some found)
    · split
      · rename_i fault parsed
        exact .refused stamped parsed
      · rename_i schemas parsed
        exact .read stamped parsed

/-- The schemas of a file, parsed without a cache. -/
def direct (tree : FileTree) (path : Path) : Except Fault (List Schema) := do
  let stamp ← Stamp.ofPath tree path
  Snapshot.parse tree stamp.path

/-- Every entry `ComesFrom` the past. -/
def IsFrom (past : List FileTree) (cache : SchemaCache) : Prop :=
  ∀ entry ∈ cache.held, entry.ComesFrom past

theorem isFrom_new (past : List FileTree) (limit : Int) : IsFrom past { limit } :=
  List.forall_mem_nil _

theorem comesFrom_parse {stamp : Stamp} {schemas : List Schema} (home : tree.HasHome)
    (present : tree ∈ past) (stamped : Stamp.ofPath tree path = .ok stamp)
    (parsed : Snapshot.parse tree stamp.path = .ok schemas) :
    CachedSnapshot.ComesFrom past ⟨stamp, schemas⟩ := by
  obtain ⟨location, node, -, stat, rfl⟩ := Stamp.ofPath_ok home stamped
  cases node with
  | file content changed =>
    have read := Snapshot.parse_file stat
    exact ⟨location, content, changed, ⟨tree, present, stat⟩, rfl, read ▸ parsed⟩
  | directory =>
    have read := Snapshot.parse_directory stat
    cases read.symm.trans parsed

/-- An entry with the stamp of a path has the size and the time of the file there. -/
theorem held_file (home : tree.HasHome) (comes : entry.ComesFrom past)
    (stamped : Stamp.ofPath tree path = .ok entry.stamp) :
    ∃ location content changed old, tree.stat path = .ok (location, .file content changed) ∧
      tree.stat (.ofLocation location) = .ok (location, .file content changed) ∧
      HeldFile past location old changed ∧ old.length = content.length ∧
      Snapshot.parseBytes (.ofLocation location) old = .ok entry.schemas := by
  obtain ⟨location, node, first, stat, same⟩ := Stamp.ofPath_ok home stamped
  obtain ⟨place, old, time, held, shape, parsed⟩ := comes
  rw [shape] at same
  cases node with
  | file content changed =>
    obtain ⟨sameFile, rfl, sameSize⟩ := Stamp.mk.inj same
    obtain rfl := (Path.mk.inj sameFile).2
    exact ⟨_, content, _, old, first, stat, held, sameSize, parsed⟩
  | directory =>
    -- A directory has the stamp of an empty file, and no empty file is ever held.
    obtain ⟨-, -, empty⟩ := Stamp.mk.inj same
    rw [List.length_eq_zero_iff.mp empty] at parsed
    exact absurd parsed (Snapshot.parseBytes_empty _ _)

/-- Some tree of the past has a file with the current size and time that parses to the schemas. -/
def WasRead (past : List FileTree) (tree : FileTree) (path : Path) (schemas : List Schema) : Prop :=
  ∃ location content changed old, tree.stat path = .ok (location, .file content changed) ∧
    old.length = content.length ∧ ∃ before ∈ past,
      before.stat (.ofLocation location) = .ok (location, .file old changed) ∧
      Snapshot.parse before (.ofLocation location) = .ok schemas

theorem wasRead_held (home : tree.HasHome) (comes : entry.ComesFrom past)
    (stamped : Stamp.ofPath tree path = .ok entry.stamp) :
    WasRead past tree path entry.schemas := by
  obtain ⟨location, content, changed, old, stat, -, ⟨before, member, stood⟩, sameSize, parsed⟩ :=
    held_file home comes stamped
  exact ⟨location, content, changed, old, stat, sameSize, before, member, stood,
    (Snapshot.parse_file stood).trans parsed⟩

theorem isFrom_get (path : Path) (home : tree.HasHome) (present : tree ∈ past)
    (sound : cache.IsFrom past) : (cache.get tree path).2.IsFrom past := by
  have outcome := got tree path cache
  generalize cache.get tree path = after at outcome ⊢
  cases outcome with
  | unseen _ => exact sound
  | held _ _ => exact sound
  | refused _ _ => exact sound
  | read stamped parsed =>
    intro entry member
    rcases mem_insert member with inside | rfl
    · exact sound entry inside
    · exact comesFrom_parse home present stamped parsed

theorem limit_get (tree : FileTree) (path : Path) (cache : SchemaCache) :
    (cache.get tree path).2.limit = cache.limit := by
  have outcome := got tree path cache
  generalize cache.get tree path = after at outcome ⊢
  cases outcome with
  | unseen _ => rfl
  | held _ _ => rfl
  | refused _ _ => rfl
  | read _ _ => exact limit_insert

/-- A successful `get` returns schemas that `WasRead`. -/
theorem get_past {schemas : List Schema} (home : tree.HasHome) (present : tree ∈ past)
    (sound : cache.IsFrom past) (given : (cache.get tree path).1 = .ok schemas) :
    WasRead past tree path schemas := by
  have outcome := got tree path cache
  generalize cache.get tree path = after at outcome given
  cases outcome with
  | unseen _ => cases given
  | held stamped member =>
    cases given
    exact wasRead_held home (sound _ member) stamped
  | refused _ _ => cases given
  | read stamped parsed =>
    obtain ⟨⟨⟩, -, same⟩ := map_ok given
    cases same
    exact wasRead_held home (comesFrom_parse home present stamped parsed) stamped

/-- Under `TellsApart` the result of `get` is that of `direct`. -/
theorem get_direct (room : 1 ≤ cache.limit) (home : tree.HasHome) (present : tree ∈ past)
    (apart : TellsApart past) (sound : cache.IsFrom past) :
    (cache.get tree path).1 = direct tree path := by
  have outcome := got tree path cache
  unfold direct
  generalize cache.get tree path = after at outcome ⊢
  cases outcome with
  | unseen stamped =>
    rw [stamped]
    rfl
  | held stamped member =>
    obtain ⟨location, content, changed, old, first, stat, held, sameSize, parsed⟩ :=
      held_file home (sound _ member) stamped
    obtain rfl := apart location changed old content held ⟨tree, present, stat⟩ sameSize
    obtain ⟨place, node, second, -, same⟩ := Stamp.ofPath_ok home stamped
    cases second.symm.trans first
    rw [stamped, same]
    exact ((Snapshot.parse_file stat).trans parsed).symm
  | refused stamped parsed =>
    rw [stamped]
    exact parsed.symm
  | read stamped parsed =>
    rw [stamped, insert_ok room]
    exact parsed.symm

/-- `direct` on several paths, in order. -/
def directAll (tree : FileTree) : List Path → Except Fault (List Schema)
  | [] => .ok []
  | path :: paths =>
    match direct tree path with
    | .error fault => .error fault
    | .ok schemas => (directAll tree paths).map (schemas ++ ·)

theorem isFrom_getAll (paths : List Path) (home : tree.HasHome) (present : tree ∈ past)
    (sound : cache.IsFrom past) :
    (getAll tree paths cache).2.IsFrom past ∧ (getAll tree paths cache).2.limit = cache.limit := by
  induction paths generalizing cache with
  | nil => exact ⟨sound, rfl⟩
  | cons path paths ih =>
    have next := isFrom_get path home present sound
    have limit := limit_get tree path cache
    unfold getAll
    split
    · rename_i got
      rw [got] at next limit
      exact ⟨next, limit⟩
    · rename_i got
      rw [got] at next limit
      exact ⟨(ih next).1, (ih next).2.trans limit⟩

theorem getAll_direct {paths : List Path} (room : 1 ≤ cache.limit) (home : tree.HasHome)
    (present : tree ∈ past) (apart : TellsApart past) (sound : cache.IsFrom past) :
    (getAll tree paths cache).1 = directAll tree paths := by
  induction paths generalizing cache with
  | nil => rfl
  | cons path paths ih =>
    have next := isFrom_get path home present sound
    have limit := limit_get tree path cache
    have first : (cache.get tree path).1 = direct tree path :=
      get_direct room home present apart sound
    unfold getAll directAll
    rw [← first]
    split
    · rename_i got
      rw [got]
    · rename_i got
      rw [got] at next limit ⊢
      exact congrArg (Except.map _) (ih (limit ▸ room) next)

theorem getAll_fresh {paths : List Path} (home : tree.HasHome) :
    (getAll tree paths {}).1 = directAll tree paths :=
  getAll_direct (by decide) home (List.mem_singleton.mpr rfl) (tellsApart_single tree)
    (isFrom_new _ _)

/-- A cache used on one tree: every entry is what the tree parses to. -/
structure IsOf (tree : FileTree) (cache : SchemaCache) : Prop where
  room : 1 ≤ cache.limit
  held : ∀ entry ∈ cache.held, Snapshot.parse tree entry.stamp.path = .ok entry.schemas

theorem isOf_new (tree : FileTree) : IsOf tree {} := ⟨by decide, List.forall_mem_nil _⟩

/-- `get_direct` for a cache of one tree. -/
theorem IsOf.get (sound : cache.IsOf tree) (path : Path) :
    (cache.get tree path).1 = direct tree path ∧ (cache.get tree path).2.IsOf tree := by
  have outcome := got tree path cache
  unfold direct
  generalize cache.get tree path = after at outcome ⊢
  cases outcome with
  | unseen stamped =>
    rw [stamped]
    exact ⟨rfl, sound⟩
  | held stamped member =>
    rw [stamped]
    exact ⟨(sound.held _ member).symm, sound⟩
  | refused stamped parsed =>
    rw [stamped]
    exact ⟨parsed.symm, sound⟩
  | read stamped parsed =>
    rw [stamped, insert_ok sound.room]
    refine ⟨parsed.symm, ?_, ?_⟩
    · exact sound.room.trans_eq limit_insert.symm
    · intro entry member
      rcases mem_insert member with inside | rfl
      · exact sound.held entry inside
      · exact parsed

end SchemaCache
end TypedCatalog
