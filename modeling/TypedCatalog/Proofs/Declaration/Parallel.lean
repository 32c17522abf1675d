import TypedCatalog.Proofs.Declaration.Generate

/-! Agreement of `Mode.parallel` and `Mode.sequential` under `AreApart`: same outcome, same bytes on
success, and failures of the same modules. -/
namespace TypedCatalog.Declaration

open Catalog

variable {render : Renderer} {writing : Writing} {mode second : Mode} {directory : Path}
  {schemas : List Schema} {tree base files : FileTree} {here : Location} {progress last : Progress}

/-- One run returns if and only if the other does, with the same count and the same bytes. -/
structure Agree (done again : Generation) : Prop where
  returns : ∀ count, done.result = .ok count ↔ again.result = .ok count
  bytes : ∀ count, done.result = .ok count → done.files.SameBytes again.files

theorem Agree.of_errors {done again : Generation} {fault other : Fault}
    (failed : done.result = .error fault) (failedToo : again.result = .error other) :
    Agree done again := by
  constructor
  · intro count
    rw [failed, failedToo]
    constructor
    · intro same
      cases same
    · intro same
      cases same
  · intro count returned
    rw [failed] at returned
    cases returned

theorem Agree.of_ok {done again : Generation} (same : done.result = again.result)
    (bytes : done.files.SameBytes again.files) : Agree done again :=
  ⟨fun _ => by rw [same], fun _ _ => bytes⟩

/-- A given number of workers is positive. -/
def Mode.HasWorkers (mode : Mode) : Prop :=
  ∀ workers, mode = .parallel (some workers) → 1 ≤ workers

theorem Settled.refused
    (settled : Settled render base directory here schemas mode progress)
    (enough : mode.HasWorkers) {fault : Fault} (failure : progress.failure = some fault) :
    ∃ schema ∈ schemas, (writeModule render directory schema base).1 = .error fault := by
  rcases settled.told fault failure with ⟨workers, low, rfl⟩ | refused
  · exact absurd (enough workers rfl) (by omega)
  · exact refused

/-- A failure exists if and only if some module cannot be written into the files before, which is
independent of the schedule. -/
theorem Settled.failure_eq_none_iff
    (settled : Settled render base directory here schemas mode progress)
    (enough : mode.HasWorkers) : progress.failure = none ↔
      ∀ schema ∈ schemas, (writeModule render directory schema base).1 = .ok () := by
  constructor
  · exact fun clear schema member => (settled.complete clear schema member).2
  · intro all
    cases failure : progress.failure with
    | none => rfl
    | some fault =>
      obtain ⟨schema, member, refused⟩ := settled.refused enough failure
      cases refused.symm.trans (all schema member)

theorem Settled.sameBytes (settled : Settled render base directory here schemas mode progress)
    (other : Settled render base directory here schemas second last)
    (stat : base.stat directory = .ok (here, .directory)) (clear : progress.failure = none)
    (clearToo : last.failure = none) : progress.files.SameBytes last.files := by
  refine ⟨settled.same.keeps.home.trans other.same.keeps.home.symm,
    settled.same.keeps.links.trans other.same.keeps.links.symm, ?_⟩
  intro location
  by_cases output : ∃ schema ∈ schemas,
      base.locate (directory.below (moduleFile schema)) = .ok location
  · obtain ⟨schema, member, located⟩ := output
    obtain rfl := FileTree.landing_of_locate stat (isFileName_moduleFile schema) located
    obtain ⟨⟨changed, stands⟩, -⟩ := settled.complete clear schema member
    obtain ⟨⟨changedToo, standsToo⟩, -⟩ := other.complete clearToo schema member
    rw [entryOf] at stands standsToo
    simp only [stands, standsToo, Option.map_some, Node.bytes?]
  · have elsewhere : ∀ schema ∈ schemas,
        base.locate (directory.below (moduleFile schema)) ≠ .ok location :=
      fun schema member located => output ⟨schema, member, located⟩
    rw [settled.others location elsewhere, other.others location elsewhere]

/-- `finish` after two settled progresses: the index is written, or refused, in both. -/
theorem Settled.agree (settled : Settled render base directory here schemas mode progress)
    (other : Settled render base directory here schemas second last) (enough : mode.HasWorkers)
    (enoughToo : second.HasWorkers) (stat : base.stat directory = .ok (here, .directory))
    {done again : Generation} (finished : Finished directory schemas progress done)
    (finishedToo : Finished directory schemas last again) : Agree done again := by
  have same : progress.failure = none ↔ last.failure = none :=
    (settled.failure_eq_none_iff enough).trans (other.failure_eq_none_iff enoughToo).symm
  have written (clear : progress.failure = none) :=
    (settled.sameBytes other stat clear (same.mp clear)).written (settled.same.keeps.stat stat)
      (other.same.keeps.stat stat) isFileName_indexName (indexBytes schemas)
  cases finished with
  | module failure =>
    cases finishedToo with
    | module _ => exact .of_errors rfl rfl
    | index _ _ => exact .of_errors rfl rfl
    | all clear _ =>
      rw [same.mpr clear] at failure
      cases failure
  | index clear first =>
    cases finishedToo with
    | module _ => exact .of_errors rfl rfl
    | index _ _ => exact .of_errors rfl rfl
    | all _ index =>
      -- Behind the same modules the index cannot be refused in one run only.
      rcases written clear with ⟨fault, -, indexToo⟩ | ⟨after, last, index', -⟩
      · cases index.symm.trans indexToo
      · cases first.symm.trans index'
  | all clear index =>
    cases finishedToo with
    | module failure =>
      rw [same.mp clear] at failure
      cases failure
    | index _ second =>
      rcases written clear with ⟨fault, index', -⟩ | ⟨after, last, -, indexToo, -⟩
      · cases index.symm.trans index'
      · cases second.symm.trans indexToo
    | all _ indexToo =>
      rcases written clear with ⟨fault, index', -⟩ | ⟨after, last, index', again, bytes⟩
      · cases index.symm.trans index'
      · cases index.symm.trans index'
        cases indexToo.symm.trans again
        exact .of_ok rfl bytes

/-- `writeModule` fails with the fault on the files in which the output directory is made. -/
def Refuses (render : Renderer) (tree : FileTree) (directory : Path) (schema : Schema)
    (fault : Fault) : Prop :=
  ∃ files, FileTree.makeDirectory directory tree = (.ok (), files) ∧
    (writeModule render directory schema files).1 = .error fault

theorem Refuses.unique {schema : Schema} {fault other : Fault}
    (refuses : Refuses render tree directory schema fault)
    (again : Refuses render tree directory schema other) : fault = other := by
  obtain ⟨files, made, refused⟩ := refuses
  obtain ⟨same, madeToo, refusedToo⟩ := again
  cases made.symm.trans madeToo
  exact Except.error.inj (refused.symm.trans refusedToo)

end TypedCatalog.Declaration
