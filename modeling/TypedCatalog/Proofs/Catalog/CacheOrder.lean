import TypedCatalog.Proofs.Catalog.CacheRuns

/-! Content and order of `SchemaCache.held`: a sublist of `latest` of all `readings`, that is the
last snapshot of each file, oldest first. A snapshot for a file that is not held evicts the head if
the cache is full. -/
namespace TypedCatalog

open Catalog

/-- The last snapshot of every path, in the order of reading. -/
def latest : List CachedSnapshot → List CachedSnapshot
  | [] => []
  | entry :: later =>
    if later.any (·.stamp.path = entry.stamp.path) then latest later else entry :: latest later

/-- `latest` of a log with one more entry drops the entry of the same path and appends the new
one. -/
theorem latest_concat (log : List CachedSnapshot) (entry : CachedSnapshot) :
    latest (log ++ [entry]) =
      (latest log).filter (fun held => held.stamp.path ≠ entry.stamp.path) ++ [entry] := by
  induction log with
  | nil => rfl
  | cons first log ih =>
    by_cases again : log.any (·.stamp.path = first.stamp.path) = true
    · simp [latest, again, ih]
    · by_cases same : entry.stamp.path = first.stamp.path
      · simp [latest, again, ih, same]
      · simp [latest, again, ih, same, Ne.symm same]

namespace SchemaCache

variable {tree : FileTree} {path : Path} {cache : SchemaCache} {entry : CachedSnapshot}
  {log : List CachedSnapshot}

/-- An entry with the stamp of the path is held. -/
def Hits (tree : FileTree) (path : Path) (cache : SchemaCache) : Prop :=
  ∃ entry ∈ cache.held, Stamp.ofPath tree path = .ok entry.stamp

/-- The snapshot that `get` reads on a miss, if it parses. -/
def parsed? (tree : FileTree) (path : Path) (cache : SchemaCache) : Option CachedSnapshot :=
  match Stamp.ofPath tree path with
  | .error _ => none
  | .ok stamp =>
    if cache.held.any (·.stamp = stamp) then none
    else match Snapshot.parse tree stamp.path with
      | .error _ => none
      | .ok schemas => some ⟨stamp, schemas⟩

theorem parsed?_of_hits (hits : cache.Hits tree path) : cache.parsed? tree path = none := by
  obtain ⟨entry, member, stamped⟩ := hits
  have held : cache.held.any (·.stamp = entry.stamp) = true :=
    List.any_eq_true.mpr ⟨entry, member, decide_eq_true rfl⟩
  simp only [parsed?, stamped, held, if_true]

/-- Under unique paths `find?` succeeds if and only if an entry has the stamp. -/
theorem isSome_find? (distinct : cache.paths.Nodup) (stamp : Stamp) :
    ((cache.find? stamp.path).filter fun entry => entry.stamp = stamp).isSome =
      cache.held.any (·.stamp = stamp) := by
  unfold find?
  unfold paths at distinct
  generalize cache.held = held at distinct ⊢
  induction held with
  | nil => rfl
  | cons first held ih =>
    rw [List.map_cons, List.nodup_cons] at distinct
    rw [List.find?_cons, List.any_cons, ← ih distinct.2]
    by_cases file : first.stamp.path = stamp.path
    · have absent : held.find? (fun entry => entry.stamp.path = stamp.path) = none := by
        rw [List.find?_eq_none]
        intro entry member same
        exact distinct.1 (file ▸ of_decide_eq_true same ▸ List.mem_map_of_mem member)
      rw [absent]
      by_cases same : first.stamp = stamp <;> simp [file, same]
    · have other : first.stamp ≠ stamp := fun same => file (congrArg Stamp.path same)
      simp [file, other]

/-- `get` inserts the snapshot of `parsed?`, or leaves the cache unchanged. -/
theorem get_eq (distinct : cache.paths.Nodup) (tree : FileTree) (path : Path) :
    match cache.parsed? tree path with
    | none => (cache.get tree path).2 = cache ∧
        (cache.Hits tree path ∨ ∃ fault, (cache.get tree path).1 = .error fault)
    | some entry => cache.get tree path =
        ((cache.insert entry).1.map fun () => entry.schemas, (cache.insert entry).2) := by
  unfold get parsed? Hits
  cases stamped : Stamp.ofPath tree path with
  | error fault => exact ⟨rfl, .inr ⟨fault, rfl⟩⟩
  | ok stamp =>
    dsimp only
    rw [← isSome_find? distinct stamp]
    cases found : (cache.find? stamp.path).filter fun entry => entry.stamp = stamp with
    | some entry =>
      obtain ⟨found, same⟩ := Option.filter_eq_some_iff.mp found
      obtain rfl := of_decide_eq_true same
      exact ⟨rfl, .inl ⟨entry, List.mem_of_find?_eq_some found, rfl⟩⟩
    | none =>
      cases Snapshot.parse tree stamp.path with
      | error fault => exact ⟨rfl, .inr ⟨fault, rfl⟩⟩
      | ok schemas => rfl

theorem get_unread (distinct : cache.paths.Nodup) (unread : cache.parsed? tree path = none) :
    (cache.get tree path).2 = cache ∧
      (cache.Hits tree path ∨ ∃ fault, (cache.get tree path).1 = .error fault) := by
  have outcome := get_eq distinct tree path
  rwa [unread] at outcome

theorem get_read (distinct : cache.paths.Nodup) (read : cache.parsed? tree path = some entry) :
    cache.get tree path =
      ((cache.insert entry).1.map fun () => entry.schemas, (cache.insert entry).2) := by
  have outcome := get_eq distinct tree path
  rwa [read] at outcome

/-- The entries with other paths. -/
def others (entry : CachedSnapshot) (cache : SchemaCache) : List CachedSnapshot :=
  cache.held.filter fun held => held.stamp.path ≠ entry.stamp.path

/-- The other entries that stay after an insertion: all, or all but the head of a full cache. -/
def kept (entry : CachedSnapshot) (cache : SchemaCache) : List CachedSnapshot :=
  if (cache.others entry).length < cache.limit then cache.others entry
  else (cache.others entry).tail

theorem held_insert (room : 1 ≤ cache.limit) :
    (cache.insert entry).2.held = cache.kept entry ++ [entry] := by
  unfold insert kept others
  dsimp only
  generalize cache.held.filter (fun held => held.stamp.path ≠ entry.stamp.path) = others
  split
  · rfl
  · rename_i full
    cases others with
    | nil => exact absurd (Int.lt_of_lt_of_le Int.zero_lt_one room) full
    | cons oldest rest => rfl

theorem kept_sublist (entry : CachedSnapshot) (cache : SchemaCache) :
    (cache.kept entry).Sublist (cache.others entry) := by
  unfold kept
  split
  · exact .refl _
  · exact List.tail_sublist _

/-- An entry for a held path evicts no other entry. -/
theorem kept_of_held (bounded : cache.held.length ≤ cache.limit)
    (member : entry.stamp.path ∈ cache.paths) : cache.kept entry = cache.others entry := by
  obtain ⟨held, inside, same⟩ := List.mem_map.mp member
  have fewer : (cache.others entry).length < cache.held.length :=
    List.length_filter_lt_length_iff_exists.mpr ⟨held, inside, by simpa using same⟩
  rw [kept, if_pos (by omega)]

theorem others_of_new (new : entry.stamp.path ∉ cache.paths) :
    cache.others entry = cache.held := by
  refine List.filter_eq_self.mpr fun held inside => decide_eq_true ?_
  intro same
  exact new (same ▸ List.mem_map_of_mem inside)

/-- State invariant: the limit bounds the entries, paths are unique, and the entries are a sublist
of `latest` of the log. -/
structure IsOrdered (limit : Int) (log : List CachedSnapshot) (cache : SchemaCache) : Prop where
  limited : cache.limit = limit
  distinct : cache.paths.Nodup
  bounded : cache.held.length ≤ limit
  ordered : cache.held.Sublist (latest log)

namespace IsOrdered

variable {limit : Int}

theorem new (room : 1 ≤ limit) : IsOrdered limit [] { limit } :=
  ⟨rfl, List.nodup_nil, Int.le_trans Int.one_nonneg room, .refl _⟩

/-- A sublist of the entries keeps the invariant. -/
theorem forget (sound : cache.IsOrdered limit log) {held : List CachedSnapshot}
    (fewer : held.Sublist cache.held) : IsOrdered limit log { cache with held } := by
  constructor
  · exact sound.limited
  · exact (fewer.map _).nodup sound.distinct
  · exact Int.le_trans (Int.ofNat_le.mpr fewer.length_le) sound.bounded
  · exact fewer.trans sound.ordered

variable (room : 1 ≤ limit)
include room

theorem insert (sound : cache.IsOrdered limit log) (entry : CachedSnapshot) :
    (cache.insert entry).2.IsOrdered limit (log ++ [entry]) := by
  have bounded := sound.bounded
  obtain rfl := sound.limited
  have held : (cache.insert entry).2.held = cache.kept entry ++ [entry] := held_insert room
  have fewer := kept_sublist entry cache
  have own : (cache.others entry).Sublist cache.held := List.filter_sublist
  constructor
  · exact limit_insert
  · rw [paths, held, List.map_append]
    refine List.nodup_append.mpr ⟨?_, List.pairwise_singleton _ _, ?_⟩
    · exact ((fewer.trans own).map _).nodup sound.distinct
    · intro file inside last same equal
      obtain ⟨other, member, rfl⟩ := List.mem_map.mp inside
      have apart := of_decide_eq_true (List.mem_filter.mp (fewer.subset member)).2
      exact apart (equal.trans (List.mem_singleton.mp same))
  · have short := own.length_le
    rw [held, List.length_append, List.length_singleton]
    unfold kept
    split
    · omega
    · rw [List.length_tail]
      omega
  · rw [held, latest_concat]
    exact (fewer.trans (sound.ordered.filter _)).append (.refl _)

theorem get (sound : cache.IsOrdered limit log) (tree : FileTree) (path : Path) :
    (cache.get tree path).2.IsOrdered limit (log ++ (cache.parsed? tree path).toList) := by
  cases read : cache.parsed? tree path with
  | none =>
    rw [(get_unread sound.distinct read).1, Option.toList_none, List.append_nil]
    exact sound
  | some entry =>
    rw [get_read sound.distinct read]
    exact sound.insert room entry

end IsOrdered

/-- The snapshots that `getAll` reads, up to the first fault. -/
def parsedAll (tree : FileTree) : List Path → SchemaCache → List CachedSnapshot
  | [], _ => []
  | path :: paths, cache =>
    (cache.parsed? tree path).toList ++ match cache.get tree path with
      | (.error _, _) => []
      | (.ok _, cache) => parsedAll tree paths cache

theorem IsOrdered.getAll {limit : Int} (room : 1 ≤ limit) (sound : cache.IsOrdered limit log)
    (tree : FileTree) (paths : List Path) :
    (getAll tree paths cache).2.IsOrdered limit (log ++ parsedAll tree paths cache) := by
  induction paths generalizing cache log with
  | nil =>
    rw [parsedAll, List.append_nil]
    exact sound
  | cons path paths ih =>
    have next := sound.get room tree path
    unfold SchemaCache.getAll parsedAll
    rw [← List.append_assoc]
    generalize SchemaCache.get tree path cache = got at next ⊢
    obtain ⟨result, after⟩ := got
    cases result with
    | error fault => rwa [List.append_nil]
    | ok schemas => exact ih next

end SchemaCache

namespace CacheRun

variable {run : CacheRun} {limit : Int} {log : List CachedSnapshot}

/-- The snapshots that an action reads. -/
def reads (run : CacheRun) : Action → List CachedSnapshot
  | .get path => (run.cache.parsed? run.files path).toList
  | .getAll paths => SchemaCache.parsedAll run.files paths run.cache
  | .write .. | .touch .. | .remove _ | .makeDirectory _ | .forget _ | .clear => []

/-- The snapshots that a run reads. -/
def readings (run : CacheRun) : List Action → List CachedSnapshot
  | [] => []
  | action :: actions => run.reads action ++ (run.step action).readings actions

theorem ordered_step (room : 1 ≤ limit) (sound : run.cache.IsOrdered limit log)
    (action : Action) : (run.step action).cache.IsOrdered limit (log ++ run.reads action) := by
  have same : run.cache.IsOrdered limit (log ++ []) := by rwa [List.append_nil]
  cases action with
  | write path content => exact same
  | touch path changed => exact same
  | remove path => exact same
  | makeDirectory path => exact same
  | get path => exact sound.get room run.files path
  | getAll paths => exact sound.getAll room run.files paths
  | forget path =>
    rw [step]
    split
    · rename_i cache forgot
      obtain ⟨resolved, -, done⟩ := bind_ok forgot
      cases done
      exact same.forget List.filter_sublist
    · exact same
  | clear => exact same.forget (List.nil_sublist _)

theorem ordered_steps (room : 1 ≤ limit) (sound : run.cache.IsOrdered limit log)
    (actions : List Action) :
    (run.steps actions).cache.IsOrdered limit (log ++ run.readings actions) := by
  induction actions generalizing run log with
  | nil =>
    rw [readings, List.append_nil]
    exact sound
  | cons action actions ih =>
    rw [readings, ← List.append_assoc]
    exact ih (ordered_step room sound action)

/-- State invariant over every sequence of actions with `1 ≤ limit`: unique paths, at most `limit`
entries, and a sublist of `latest` of all `readings`. `get` leaves the cache unchanged on a hit and
on a fault. Otherwise the read entry goes to the end: all others stay if its path was held or there
is room, and the head is evicted if the cache is full. -/
theorem steps_ordered {files : FileTree} {limit : Int} (room : 1 ≤ limit)
    (actions : List Action) :
    let run := (start files limit).steps actions
    let held := run.cache.held
    run.cache.paths.Nodup ∧ held.length ≤ limit ∧
    held.Sublist (latest ((start files limit).readings actions)) ∧
    ∀ path,
      let after := (run.step (.get path)).cache
      (run.cache.Hits run.files path → after = run.cache) ∧
      (∀ fault, run.get path = .error fault → after = run.cache) ∧
      (∀ schemas, run.get path = .ok schemas → ¬run.cache.Hits run.files path →
        ∃ entry, run.cache.parsed? run.files path = some entry ∧ entry.schemas = schemas ∧
          (entry.stamp.path ∈ run.cache.paths → after.held =
            held.filter (fun other => other.stamp.path ≠ entry.stamp.path) ++ [entry]) ∧
          (entry.stamp.path ∉ run.cache.paths →
            held.length < limit ∧ after.held = held ++ [entry] ∨
            held.length = limit ∧ after.held = held.tail ++ [entry])) := by
  intro run held
  have sound : run.cache.IsOrdered limit ([] ++ (start files limit).readings actions) :=
    ordered_steps room (.new room) actions
  refine ⟨sound.distinct, sound.bounded, sound.ordered, fun path => ?_⟩
  cases read : run.cache.parsed? run.files path with
  | none =>
    obtain ⟨unchanged, ends⟩ := SchemaCache.get_unread sound.distinct read
    refine ⟨fun _ => unchanged, fun _ _ => unchanged, fun schemas given missed => ?_⟩
    rcases ends with hits | ⟨fault, refused⟩
    · exact absurd hits missed
    · cases refused.symm.trans given
  | some entry =>
    have room' : 1 ≤ run.cache.limit := by rwa [sound.limited]
    have got := SchemaCache.get_read sound.distinct read
    have given : run.get path = .ok entry.schemas := by
      rw [CacheRun.get, got, SchemaCache.insert_ok room']
      rfl
    have after : (run.step (.get path)).cache.held = run.cache.kept entry ++ [entry] := by
      change (run.cache.get run.files path).2.held = _
      rw [got, SchemaCache.held_insert room']
    refine ⟨fun hits => ?_, fun fault refused => ?_, fun schemas same _ => ?_⟩
    · cases (SchemaCache.parsed?_of_hits hits).symm.trans read
    · cases refused.symm.trans given
    · refine ⟨entry, rfl, Except.ok.inj (given.symm.trans same), fun member => ?_, fun new => ?_⟩
      · rw [after, SchemaCache.kept_of_held (sound.limited ▸ sound.bounded) member]
        rfl
      · have others := SchemaCache.others_of_new new
        rw [after, SchemaCache.kept, others, sound.limited]
        rcases Int.lt_or_eq_of_le sound.bounded with free | full
        · exact .inl ⟨free, by rw [if_pos free]⟩
        · exact .inr ⟨full, by rw [if_neg (Int.not_lt.mpr (Int.le_of_eq full.symm))]⟩

/-- A file below the root. -/
def topmost (name : String) : Path := ⟨true, [name.toList]⟩

/-- Limit two: the first file is read again, so a third one evicts the second. -/
def revisited : List Action :=
  let text (blanks : Nat) : List UInt8 := [0x5b] ++ List.replicate blanks 0x20 ++ [0x5d]
  [.write (topmost "a.json") (text 0), .write (topmost "b.json") (text 0),
    .write (topmost "c.json") (text 0), .getAll [topmost "a.json", topmost "b.json"],
    .write (topmost "a.json") (text 1), .get (topmost "a.json"), .get (topmost "c.json")]

theorem revisited_ordered :
    let begun := start { home := [] } 2
    let held := (begun.steps revisited).cache.held
    1 ≤ (2 : Int) ∧ held.Sublist (latest (begun.readings revisited)) ∧
      (begun.readings revisited).map (·.stamp.path) =
        [topmost "a.json", topmost "b.json", topmost "a.json", topmost "c.json"] ∧
      held.map (·.stamp.path) = [topmost "a.json", topmost "c.json"] := by
  have room : 1 ≤ (2 : Int) := by decide
  have ordered := @steps_ordered { home := [] } 2 room revisited
  exact ⟨room, ordered.2.2.1, by decide +kernel, by decide +kernel⟩

end CacheRun
end TypedCatalog
