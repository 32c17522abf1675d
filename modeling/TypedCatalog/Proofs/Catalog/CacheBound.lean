import TypedCatalog.Proofs.Catalog.CacheRuns
import TypedCatalog.Proofs.Catalog.Loading

/-! Capacity of `SchemaCache` for every integer limit. With a limit below one nothing is held, and
`insert` has no entry to drop. -/
namespace TypedCatalog

open Catalog

namespace Snapshot

variable {tree : FileTree} {path : Path} {schemas : List Schema}

theorem AreAlike.parse_ok {resolved : Path} (alike : AreAlike tree path resolved)
    (parsed : parse tree path = .ok schemas) : parse tree resolved = .ok schemas := by
  unfold parse at parsed ⊢
  split at parsed
  · cases parsed
  · rename_i loaded
    rw [alike.load_ok loaded]
    exact mapM_ok_imp (fun _ _ read => schemaIn_ok_iff.mpr (schemaIn_ok_iff.mp read)) parsed

theorem stat_of_parse (parsed : parse tree path = .ok schemas) :
    ∃ found, tree.stat path = .ok found := by
  unfold parse at parsed
  split at parsed
  · cases parsed
  · rename_i loaded
    obtain ⟨text, data, held, -, -⟩ := load_ok_iff.mp loaded
    cases stat : tree.stat path with
    | ok found => exact ⟨found, rfl⟩
    | error fault =>
      simp only [FileTree.readText, FileTree.readBytes, stat] at held
      cases held

/-- A file that parses by its path has a stamp, and parses by the resolved path of the stamp unless
the formats of the two differ. -/
theorem stamp_of_parse (home : tree.HasHome) (parsed : parse tree path = .ok schemas)
    (format : tree.IsDirect path ∨ ∀ place, tree.resolve path = .ok place → SameFormat path place) :
    ∃ stamp, Stamp.ofPath tree path = .ok stamp ∧ parse tree stamp.path = .ok schemas := by
  cases stamped : Stamp.ofPath tree path with
  | error fault =>
    obtain ⟨found, stat⟩ := stat_of_parse parsed
    cases stat.symm.trans (Stamp.ofPath_error_iff.mp stamped)
  | ok stamp =>
    obtain ⟨location, node, stat, -, rfl⟩ := Stamp.ofPath_ok home stamped
    refine ⟨_, rfl, ?_⟩
    rw [Stamp.path_ofNode]
    have resolves := (home.resolve stat).1
    exact (areAlike_resolve home stat (format.imp_right (· _ resolves))).parse_ok parsed

end Snapshot

namespace SchemaCache

variable {tree : FileTree} {path : Path} {cache : SchemaCache} {limit : Int}

/-- The limit is unchanged, and at most `max limit 0` snapshots are held. -/
structure IsBounded (limit : Int) (cache : SchemaCache) : Prop where
  limited : cache.limit = limit
  bounded : (cache.held.length : Int) ≤ max limit 0

namespace IsBounded

theorem new (limit : Int) : IsBounded limit { limit } := ⟨rfl, Int.le_max_right limit 0⟩

theorem fewer (sound : cache.IsBounded limit) {held : List CachedSnapshot}
    (short : held.length ≤ cache.held.length) : IsBounded limit { cache with held } :=
  ⟨sound.limited, Int.le_trans (Int.ofNat_le.mpr short) sound.bounded⟩

theorem insert (sound : cache.IsBounded limit) (entry : CachedSnapshot) :
    (cache.insert entry).2.IsBounded limit := by
  obtain ⟨rfl, bounded⟩ := sound
  refine ⟨limit_insert, ?_⟩
  have short : (cache.held.filter fun held => held.stamp.path ≠ entry.stamp.path).length ≤
    cache.held.length := List.length_filter_le _ _
  unfold SchemaCache.insert
  dsimp only
  generalize cache.held.filter (fun held => held.stamp.path ≠ entry.stamp.path) = others at short ⊢
  split
  · rw [List.length_append, List.length_singleton]
    omega
  · split
    · exact Int.le_max_right _ _
    · rw [List.length_cons] at short
      rw [List.length_append, List.length_singleton]
      omega

theorem get (sound : cache.IsBounded limit) (tree : FileTree) (path : Path) :
    (cache.get tree path).2.IsBounded limit := by
  have outcome := got tree path cache
  generalize cache.get tree path = after at outcome ⊢
  cases outcome with
  | unseen _ => exact sound
  | held _ _ => exact sound
  | refused _ _ => exact sound
  | read _ _ => exact sound.insert _

theorem getAll (sound : cache.IsBounded limit) (tree : FileTree) (paths : List Path) :
    (getAll tree paths cache).2.IsBounded limit := by
  induction paths generalizing cache with
  | nil => exact sound
  | cons path paths ih =>
    have next := sound.get tree path
    unfold SchemaCache.getAll
    generalize SchemaCache.get tree path cache = got at next ⊢
    obtain ⟨result, after⟩ := got
    cases result with
    | error fault => exact next
    | ok schemas => exact ih next

end IsBounded

/-- With a limit below one, `get` on a parsable file raises `nothingHeld`. -/
theorem get_unroomed {stamp : Stamp} {schemas : List Schema} (sound : cache.IsBounded limit)
    (unroomed : limit ≤ 0) (stamped : Stamp.ofPath tree path = .ok stamp)
    (parsed : Snapshot.parse tree stamp.path = .ok schemas) :
    (cache.get tree path).1 = .error .nothingHeld := by
  have empty : cache.held = [] := by
    have bounded := sound.bounded
    rw [Int.max_eq_right unroomed] at bounded
    exact List.length_eq_zero_iff.mp (by omega)
  have full (entry : CachedSnapshot) : (cache.insert entry).1 = .error .nothingHeld := by
    have limited : ¬(0 : Int) < cache.limit := by rw [sound.limited]; omega
    simp [SchemaCache.insert, empty, limited]
  have outcome := got tree path cache
  generalize cache.get tree path = after at outcome ⊢
  cases outcome with
  | unseen failed => cases stamped.symm.trans failed
  | held _ member =>
    rw [empty] at member
    cases member
  | refused again failed =>
    cases stamped.symm.trans again
    cases parsed.symm.trans failed
  | read _ _ => rw [full]; rfl

end SchemaCache

namespace CacheRun

variable {run : CacheRun} {limit : Int}

/-- The action does not change files. -/
def Action.isUse : Action → Bool
  | .get _ | .getAll _ | .forget _ | .clear => true
  | .write .. | .touch .. | .remove _ | .makeDirectory _ => false

theorem bounded_step (sound : run.cache.IsBounded limit) (action : Action) :
    (run.step action).cache.IsBounded limit := by
  cases action with
  | write path content => exact sound
  | touch path changed => exact sound
  | remove path => exact sound
  | makeDirectory path => exact sound
  | get path => exact sound.get run.files path
  | getAll paths => exact sound.getAll run.files paths
  | forget path =>
    rw [step]
    split
    · rename_i cache forgot
      obtain ⟨resolved, -, done⟩ := bind_ok forgot
      cases done
      exact sound.fewer (List.length_filter_le _ _)
    · exact sound
  | clear => exact sound.fewer (Nat.zero_le _)

theorem bounded_steps (sound : run.cache.IsBounded limit) (actions : List Action) :
    (run.steps actions).cache.IsBounded limit := by
  induction actions generalizing run with
  | nil => exact sound
  | cons action actions ih => exact ih (bounded_step sound action)

theorem home_step (home : run.files.HasHome) (action : Action) :
    (run.step action).files.HasHome := by
  cases action with
  | write path content =>
    exact (FileTree.keeps_change fun _ => FileTree.keeps_writeBytes).hasHome home
  | touch path changed => exact (FileTree.keeps_change fun _ => FileTree.keeps_touch).hasHome home
  | remove path => exact (FileTree.keeps_change fun _ => FileTree.keeps_remove).hasHome home
  | makeDirectory path => exact (FileTree.keeps_makeDirectory path _).hasHome home
  | forget path =>
    rw [step]
    split
    · exact home
    · exact home
  | _ => exact home

theorem home_steps (home : run.files.HasHome) (actions : List Action) :
    (run.steps actions).files.HasHome := by
  induction actions generalizing run with
  | nil => exact home
  | cons action actions ih => exact ih (home_step home action)

theorem use_step {action : Action} (use : action.isUse = true) :
    (run.step action).files = run.files ∧ (run.step action).past = run.past := by
  cases action with
  | forget path =>
    rw [step]
    split
    · exact ⟨rfl, rfl⟩
    · exact ⟨rfl, rfl⟩
  | get path => exact ⟨rfl, rfl⟩
  | getAll paths => exact ⟨rfl, rfl⟩
  | clear => exact ⟨rfl, rfl⟩
  | _ => cases use

theorem use_steps {actions : List Action} (uses : ∀ action ∈ actions, action.isUse = true) :
    (run.steps actions).files = run.files ∧ (run.steps actions).past = run.past := by
  induction actions generalizing run with
  | nil => exact ⟨rfl, rfl⟩
  | cons action actions ih =>
    obtain ⟨use, uses⟩ := List.forall_mem_cons.mp uses
    obtain ⟨files, past⟩ : (run.step action).files = run.files ∧
      (run.step action).past = run.past := use_step use
    exact ⟨(ih uses).1.trans files, (ih uses).2.trans past⟩

/-- Invariant over every sequence of actions and every integer limit: at most `max limit 0`
snapshots are held. If stamps determine contents, in particular if no action changes files, `get`
returns the schemas of every file that parses by its resolved path if `1 ≤ limit`, and raises
`nothingHeld` otherwise. A file that parses by its own path is one of these, unless the path is a
link to another format. -/
theorem steps_bounded {files : FileTree} (home : files.HasHome) (limit : Int)
    (actions : List Action) :
    let run := (start files limit).steps actions
    (run.cache.held.length : Int) ≤ max limit 0 ∧
    ((∀ action ∈ actions, action.isUse = true) ∨ TellsApart run.past →
      ∀ path schemas,
        (∃ stamp, Stamp.ofPath run.files path = .ok stamp ∧
          Snapshot.parse run.files stamp.path = .ok schemas) ∨
        (Snapshot.parse run.files path = .ok schemas ∧ (run.files.IsDirect path ∨
          ∀ place, run.files.resolve path = .ok place → Snapshot.SameFormat path place)) →
      run.get path = if 1 ≤ limit then .ok schemas else .error .nothingHeld) := by
  intro run
  have bounded : run.cache.IsBounded limit := bounded_steps (.new limit) actions
  refine ⟨bounded.bounded, fun apart path schemas parsed => ?_⟩
  have apart : TellsApart run.past := by
    rcases apart with uses | apart
    · have same : run.past = [files] := (use_steps uses).2
      rw [same]
      exact tellsApart_single files
    · exact apart
  have settled : ((start files limit).steps actions).files.HasHome := home_steps home actions
  obtain ⟨stamp, stamped, resolved⟩ : ∃ stamp, Stamp.ofPath run.files path = .ok stamp ∧
      Snapshot.parse run.files stamp.path = .ok schemas := by
    rcases parsed with found | ⟨parsed, format⟩
    · exact found
    · exact Snapshot.stamp_of_parse settled parsed format
  split
  · rename_i room
    have sound : run.IsSound := (isSound_start home room).steps actions
    have given : run.get path = SchemaCache.direct run.files path :=
      SchemaCache.get_direct sound.room sound.home sound.present apart sound.held
    rw [given, SchemaCache.direct, stamped, ok_bind, resolved]
  · rename_i unroomed
    exact SchemaCache.get_unroomed bounded (by omega) stamped resolved

/-- One file with one schema. -/
def lone : FileTree where
  home := []
  nodes := [(["a.json".toList], .file (Text.Utf8.encode "\x7b\"name\": \"s\"\x7d") .zero)]

/-- Two requests for the file with an invalidation in between. -/
def returning : List Action :=
  let path : Path := ⟨true, ["a.json".toList]⟩
  [.get path, .forget path, .getAll [path, path]]

theorem parse_lone : ∃ schemas, Snapshot.parse lone ⟨true, ["a.json".toList]⟩ = .ok schemas ∧
    schemas.map (·.name) = ["s".toList] := ok_of_shown (by decide +kernel)

theorem steps_bounded_lone :
    let path : Path := ⟨true, ["a.json".toList]⟩
    lone.HasHome ∧ (∀ action ∈ returning, action.isUse = true) ∧
      ((start lone 1).steps returning).cache.held.length ≤ (1 : Int) ∧
      (∃ schemas, ((start lone 1).steps returning).get path = .ok schemas ∧
        schemas.map (·.name) = ["s".toList]) ∧
      ((start lone (-1)).steps returning).get path = .error .nothingHeld := by
  have home : lone.HasHome := rfl
  have uses : ∀ action ∈ returning, action.isUse = true := List.all_eq_true.mp rfl
  obtain ⟨schemas, parsed, names⟩ := parse_lone
  have parsed (limit : Int) : Snapshot.parse ((start lone limit).steps returning).files
      ⟨true, ["a.json".toList]⟩ = .ok schemas := by
    have same : ((start lone limit).steps returning).files = lone := (use_steps uses).1
    rw [same, parsed]
  have direct (limit : Int) : ((start lone limit).steps returning).files.IsDirect
      ⟨true, ["a.json".toList]⟩ := by
    have same : ((start lone limit).steps returning).files = lone := (use_steps uses).1
    rw [same]
    exact fun _ _ => rfl
  have roomy := steps_bounded home 1 returning
  have unroomed := steps_bounded home (-1) returning
  exact ⟨home, uses, roomy.1,
    ⟨schemas, roomy.2 (.inl uses) _ _ (.inr ⟨parsed 1, .inl (direct 1)⟩), names⟩,
    unroomed.2 (.inl uses) _ _ (.inr ⟨parsed (-1), .inl (direct (-1))⟩)⟩

/-- With limit zero `get` fails on a file that parses. -/
theorem get_without_room :
    ¬∀ (files : FileTree) (limit : Int) (actions : List Action) (path : Path)
      (schemas : List Schema), files.HasHome → (∀ action ∈ actions, action.isUse = true) →
        let run := (start files limit).steps actions
        Snapshot.parse run.files path = .ok schemas → run.get path = .ok schemas := by
  intro given
  obtain ⟨schemas, parsed, -⟩ := parse_lone
  have found := given lone 0 [] ⟨true, ["a.json".toList]⟩ schemas rfl (List.forall_mem_nil _) parsed
  have failed : (((start lone 0).get ⟨true, ["a.json".toList]⟩).map fun _ => ()).toOption = none := by
    decide +kernel
  have found : (start lone 0).get ⟨true, ["a.json".toList]⟩ = .ok schemas := found
  rw [found] at failed
  cases failed

end CacheRun
end TypedCatalog
