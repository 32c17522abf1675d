import TypedCatalog.Proofs.Declaration.Schedule

/-! Invariants of every `Outcome`, in all modes and for all interleavings: `Ended` without a
hypothesis on links, and `Settled` under `AreSeparate`. -/
namespace TypedCatalog.Declaration

open Catalog
open Relation (ReflTransGen)

/-- `Framed` files; every written module is one of the schemas, all of them are written if there is
no failure, and a failure is the lack of workers or names one of the schemas. -/
structure Ended (base : FileTree) (directory : Path) (schemas : List Schema)
    (progress : Progress) : Prop extends Framed base directory schemas progress.files where
  listed : ∀ schema ∈ progress.written, schema ∈ schemas
  all : progress.failure = none → progress.written.Perm schemas
  blamed : ∀ fault, progress.failure = some fault →
    fault = .content .workers ∨ ∃ schema ∈ schemas, BlamedOn schema fault

/-- `Ended`, and for each module under `AreSeparate`: its file is untouched or holds the rendered
bytes; without a failure every module is complete; a failure is that of `writeModule` on the files
before, or the lack of workers. -/
structure Settled (render : Renderer) (base : FileTree) (directory : Path) (here : Location)
    (schemas : List Schema) (mode : Mode) (progress : Progress) : Prop extends
    Ended base directory schemas progress where
  modules : ∀ schema ∈ schemas, IsUntouched base here progress.files schema ∨
    HoldsBytes base here progress.files schema ((render schema).bytes schema)
  complete : progress.failure = none → ∀ schema ∈ schemas,
    HoldsBytes base here progress.files schema (moduleBytes schema) ∧
      (writeModule render directory schema base).1 = .ok ()
  told : ∀ fault, progress.failure = some fault →
    (∃ workers ≤ 0, mode = .parallel (some workers)) ∨
    ∃ schema ∈ schemas, (writeModule render directory schema base).1 = .error fault

variable {render : Renderer} {base : FileTree} {directory : Path} {here : Location}
  {schemas : List Schema} {mode : Mode} {progress : Progress}

namespace Pool

variable {pool : Pool} {failure : Option Fault} {fault : Fault} {schema : Schema}

/-- A finished pool that tells no failure has written every module. -/
theorem IsFinished.isWritten (finished : pool.IsFinished) (tells : pool.Tells none) :
    ∀ job ∈ pool.jobs, job.2 = .written := by
  intro job member
  have ended := finished job member
  have silent : faults pool.jobs = [] := by
    rcases tells with ⟨-, silent⟩ | ⟨fault, -, told⟩
    · exact silent
    · cases told
  have quiet : job.2.fault? = none := List.filterMap_eq_nil_iff.mp silent job member
  obtain ⟨schema, job⟩ := job
  cases job with
  | written => rfl
  | waiting => cases ended
  | rendered => cases ended
  | opened file => cases ended
  | failed fault => cases quiet

/-- A told failure belongs to a failed job. -/
theorem Tells.exists_job (tells : pool.Tells (some fault)) :
    ∃ schema, (schema, .failed fault) ∈ pool.jobs := by
  rcases tells with ⟨quiet, -⟩ | ⟨_, member, ⟨⟩⟩
  · cases quiet
  · obtain ⟨⟨schema, job⟩, inside, failed⟩ := List.mem_filterMap.mp member
    cases job with
    | failed other =>
      cases failed
      exact ⟨schema, inside⟩
    | waiting => cases failed
    | rendered => cases failed
    | opened file => cases failed
    | written => cases failed

/-- `IsFramed` yields `Ended`, for a pool that is finished unless it tells a failure. -/
theorem IsFramed.ended (framed : IsFramed base directory schemas pool) (tells : pool.Tells failure)
    (finished : failure = none → pool.IsFinished) :
    Ended base directory schemas { files := pool.files, written := pool.written, failure } := by
  refine ⟨framed.toFramed, ?_, ?_, ?_⟩
  · intro schema member
    obtain ⟨job, inside, rfl⟩ := List.mem_map.mp (framed.written.subset member)
    exact framed.listed ▸ List.mem_map_of_mem (List.mem_filter.mp inside).1
  · intro clear
    have allWritten := (finished clear).isWritten (clear ▸ tells)
    have count := framed.written
    rwa [List.filter_eq_self.mpr fun job member => by rw [allWritten job member]; rfl,
      framed.listed] at count
  · rintro fault rfl
    obtain ⟨schema, member⟩ := tells.exists_job
    have reports := framed.reports _ member
    exact .inr ⟨schema, framed.listed ▸ List.mem_map_of_mem member, reports⟩

/-- Every schema of the pool has a job. -/
theorem IsSound.exists_job (sound : IsSound render base directory here schemas pool)
    (member : schema ∈ schemas) : ∃ job : Job, (schema, job) ∈ pool.jobs := by
  rw [← sound.listed] at member
  obtain ⟨⟨_, job⟩, inside, rfl⟩ := List.mem_map.mp member
  exact ⟨job, inside⟩

/-- A told failure is that of `writeModule` on the files before all steps. -/
theorem IsSound.told (sound : IsSound render base directory here schemas pool)
    (tells : pool.Tells (some fault)) :
    ∃ schema ∈ schemas, (writeModule render directory schema base).1 = .error fault := by
  obtain ⟨schema, member⟩ := tells.exists_job
  have fits := sound.fits _ member
  exact ⟨schema, sound.listed ▸ List.mem_map_of_mem member, fits.2⟩

/-- `IsSound` yields `Settled`, for a pool without busy jobs that is finished unless it tells a
failure. -/
theorem IsSound.settled (sound : IsSound render base directory here schemas pool)
    (idle : ∀ job ∈ pool.jobs, job.2.isBusy = false) (tells : pool.Tells failure)
    (finished : failure = none → pool.IsFinished) :
    Settled render base directory here schemas mode
      { files := pool.files, written := pool.written, failure } := by
  refine ⟨sound.toIsFramed.ended tells finished, ?_, ?_, ?_⟩
  · intro schema member
    obtain ⟨job, inside⟩ := sound.exists_job member
    have fits := sound.fits _ inside
    have free := idle _ inside
    cases job with
    | waiting => exact .inl fits
    | rendered => cases free
    | opened file => cases free
    | written => exact .inr fits.1
    | failed fault => exact fits.1
  · intro clear schema member
    obtain ⟨job, inside⟩ := sound.exists_job member
    have fits := sound.fits _ inside
    rw [(finished clear).isWritten (clear ▸ tells) _ inside] at fits
    obtain ⟨holds, written⟩ := fits
    rw [(writeModule_ok written).1] at holds
    exact ⟨holds, written⟩
  · rintro fault rfl
    exact .inr (sound.told tells)

end Pool

theorem Ended.of_noWorkers (base : FileTree) (directory : Path) (schemas : List Schema) :
    Ended base directory schemas { files := base, failure := some (.content .workers) } := by
  refine ⟨.refl base directory schemas, ?_, ?_, ?_⟩
  · exact fun _ member => nomatch member
  · exact fun clear => nomatch clear
  · exact fun fault told => .inl (Option.some.inj told).symm

theorem ended_writeUntilFailure :
    Ended base directory schemas (writeUntilFailure render directory { files := base } schemas) := by
  obtain ⟨pool, steps, -, tells, finished, files, written⟩ :=
    Pool.writeUntilFailure_reaches render directory schemas base
  have framed := (Pool.isFramed_start base directory schemas).reaches steps
  have ended := framed.ended tells finished
  rw [← files, ← written] at ended
  exact ended

theorem Outcome.ended (outcome : Outcome render directory schemas base mode progress) :
    Ended base directory schemas progress := by
  cases outcome with
  | alone => exact ended_writeUntilFailure
  | single few => exact ended_writeUntilFailure
  | noWorkers several short => exact .of_noWorkers base directory schemas
  | workers several positive number steps finished tells =>
    have framed := (Pool.isFramed_start base directory schemas).reaches steps
    exact framed.ended tells fun _ => finished

theorem settled_writeUntilFailure (stat : base.stat directory = .ok (here, .directory))
    (separate : AreSeparate base here schemas) :
    Settled render base directory here schemas mode
      (writeUntilFailure render directory { files := base } schemas) := by
  obtain ⟨pool, steps, idle, tells, finished, files, written⟩ :=
    Pool.writeUntilFailure_reaches render directory schemas base
  have sound := (Pool.isSound_start render base directory here schemas).reaches stat separate steps
  have settled : Settled render base directory here schemas mode _ :=
    sound.settled idle tells finished
  rw [← files, ← written] at settled
  exact settled

theorem Outcome.settled (stat : base.stat directory = .ok (here, .directory))
    (separate : AreSeparate base here schemas)
    (outcome : Outcome render directory schemas base mode progress) :
    Settled render base directory here schemas mode progress := by
  cases outcome with
  | alone => exact settled_writeUntilFailure stat separate
  | single few => exact settled_writeUntilFailure stat separate
  | @noWorkers workers several short =>
    -- Nothing is written, and that no one is there to write is what is told.
    refine ⟨.of_noWorkers base directory schemas, ?_, ?_, ?_⟩
    · exact fun _ _ => .inl fun _ _ => rfl
    · exact fun clear => nomatch clear
    · exact fun _ _ => .inl ⟨workers, short, rfl⟩
  | workers several positive number steps finished tells =>
    have sound :=
      (Pool.isSound_start render base directory here schemas).reaches stat separate steps
    refine sound.settled ?_ tells fun _ => finished
    intro job member
    exact Job.isBusy_of_isOver (finished job member)

end TypedCatalog.Declaration
