import Mathlib.Data.List.Perm.Basic
import Mathlib.Logic.Relation
import TypedCatalog.Declaration.Writer
import TypedCatalog.Proofs.Fault

/-! Small-step semantics of workers that write modules. A worker renders a module, opens and thereby
empties its file, and fills it, each in one `Step`, with steps of other workers in between. Each of
the three may fail: `Step.refuses`, `Step.fails` and `Step.cuts`. -/
namespace TypedCatalog.Declaration

open Catalog
open Relation (ReflTransGen)

/-- The progress of one module. -/
inductive Job where
  | waiting
  | rendered
  /-- The file is open and still empty. -/
  | opened (file : Location)
  | written
  | failed (fault : Fault)

namespace Job

def isWaiting : Job → Bool
  | .waiting => true
  | _ => false

def isRendered : Job → Bool
  | .rendered => true
  | _ => false

/-- A worker is between the first and the last step of the module. -/
def isBusy : Job → Bool
  | .rendered | .opened _ => true
  | _ => false

def isWritten : Job → Bool
  | .written => true
  | _ => false

def fault? : Job → Option Fault
  | .failed fault => some fault
  | _ => none

/-- The module is written or has failed. -/
def isOver : Job → Bool
  | .written | .failed _ => true
  | _ => false

theorem isBusy_of_isOver {job : Job} (ended : job.isOver = true) : job.isBusy = false := by
  cases job with
  | waiting => cases ended
  | rendered => cases ended
  | opened file => cases ended
  | written => rfl
  | failed fault => rfl

end Job

/-- The files, the jobs in the order of the schemas, and the written modules in the order of
completion. -/
structure Pool where
  files : FileTree
  jobs : List (Schema × Job)
  written : List Schema := []

namespace Pool

def waiting (schemas : List Schema) : List (Schema × Job) :=
  schemas.map fun schema => (schema, .waiting)

def start (schemas : List Schema) (files : FileTree) : Pool := { files, jobs := waiting schemas }

/-- The number of busy jobs. -/
def busy (jobs : List (Schema × Job)) : Nat := jobs.countP fun job => job.2.isBusy

def faults (jobs : List (Schema × Job)) : List Fault := jobs.filterMap fun job => job.2.fault?

def IsFinished (pool : Pool) : Prop := ∀ job ∈ pool.jobs, job.2.isOver = true

/-- One step of one of at most `limit` workers. -/
inductive Step (render : Renderer) (limit : Nat) (directory : Path) : Pool → Pool → Prop where
  | renders {files : FileTree} {before rest : List (Schema × Job)} {schema : Schema}
      {written : List Schema} :
      busy (before ++ (schema, .waiting) :: rest) < limit →
      renderModule render schema = .ok () →
      Step render limit directory ⟨files, before ++ (schema, .waiting) :: rest, written⟩
        ⟨files, before ++ (schema, .rendered) :: rest, written⟩
  | refuses {files : FileTree} {before rest : List (Schema × Job)} {schema : Schema}
      {fault : Fault} {written : List Schema} :
      busy (before ++ (schema, .waiting) :: rest) < limit →
      renderModule render schema = .error fault →
      Step render limit directory ⟨files, before ++ (schema, .waiting) :: rest, written⟩
        ⟨files, before ++ (schema, .failed fault) :: rest, written⟩
  | opens {files after : FileTree} {before rest : List (Schema × Job)} {schema : Schema}
      {file : Location} {written : List Schema} :
      openModule directory schema files = .ok (file, after) →
      Step render limit directory ⟨files, before ++ (schema, .rendered) :: rest, written⟩
        ⟨after, before ++ (schema, .opened file) :: rest, written⟩
  | fails {files : FileTree} {before rest : List (Schema × Job)} {schema : Schema}
      {fault : Fault} {written : List Schema} :
      openModule directory schema files = .error fault →
      Step render limit directory ⟨files, before ++ (schema, .rendered) :: rest, written⟩
        ⟨files, before ++ (schema, .failed fault) :: rest, written⟩
  | fills {files after : FileTree} {before rest : List (Schema × Job)} {schema : Schema}
      {file : Location} {written : List Schema} :
      fillModule render schema file files = (.ok (), after) →
      Step render limit directory ⟨files, before ++ (schema, .opened file) :: rest, written⟩
        ⟨after, before ++ (schema, .written) :: rest, written ++ [schema]⟩
  | cuts {files after : FileTree} {before rest : List (Schema × Job)} {schema : Schema}
      {file : Location} {fault : Fault} {written : List Schema} :
      fillModule render schema file files = (.error fault, after) →
      Step render limit directory ⟨files, before ++ (schema, .opened file) :: rest, written⟩
        ⟨after, before ++ (schema, .failed fault) :: rest, written⟩

/-- The reported failure: some fault of a failed job, or none if no job failed. -/
def Tells (pool : Pool) (failure : Option Fault) : Prop :=
  failure = none ∧ faults pool.jobs = [] ∨ ∃ fault ∈ faults pool.jobs, failure = some fault

end Pool

/-- The possible results of writing modules in a mode: sequentially up to the first failure, or a
finished pool of workers, whose number is arbitrary if the mode gives none. -/
inductive Outcome (render : Renderer) (directory : Path) (schemas : List Schema)
    (files : FileTree) : Mode → Progress → Prop where
  | alone : Outcome render directory schemas files .sequential
      (writeUntilFailure render directory { files } schemas)
  | single {workers : Option Int} : schemas.length ≤ 1 →
      Outcome render directory schemas files (.parallel workers)
        (writeUntilFailure render directory { files } schemas)
  | noWorkers {workers : Int} : 1 < schemas.length → workers ≤ 0 →
      Outcome render directory schemas files (.parallel (some workers))
        { files, failure := some (.content .workers) }
  | workers {workers : Option Int} {limit : Nat} {pool : Pool} {failure : Option Fault} :
      1 < schemas.length → 0 < limit → (∀ number ∈ workers, number = limit) →
      ReflTransGen (Pool.Step render limit directory) (.start schemas files) pool →
      pool.IsFinished → pool.Tells failure →
      Outcome render directory schemas files (.parallel workers)
        { files := pool.files, written := pool.written, failure }

/-- In every mode the writing returns some `Outcome` for the renderer. -/
def Writing.IsPossible (writing : Writing) (render : Renderer) : Prop :=
  ∀ mode directory schemas files,
    Outcome render directory schemas files mode (writing mode directory schemas files)

variable {render : Renderer} {directory : Path} {schemas : List Schema} {progress : Progress}

/-- `writeUntilFailure` is `writeAll` on a prefix of the schemas. -/
theorem writeUntilFailure_eq (render : Renderer) (directory : Path) (progress : Progress)
    (schemas : List Schema) :
    ∃ done left, schemas = done ++ left ∧
      writeUntilFailure render directory progress schemas =
        writeAll render directory progress done ∧
      ((writeAll render directory progress done).failure = none → left = []) := by
  induction schemas generalizing progress with
  | nil => exact ⟨[], [], rfl, rfl, fun _ => rfl⟩
  | cons schema schemas ih =>
    by_cases failed : (progress.write render directory schema).failure.isSome
    · refine ⟨[schema], schemas, rfl, ?_, ?_⟩
      · simp only [writeUntilFailure, failed, if_true]
        rfl
      · intro clear
        change (progress.write render directory schema).failure = none at clear
        rw [clear] at failed
        cases failed
    · obtain ⟨done, left, rfl, same, all⟩ := ih (progress.write render directory schema)
      refine ⟨schema :: done, left, rfl, ?_, all⟩
      simp only [writeUntilFailure, failed]
      exact same

namespace Pool

variable {limit : Nat} {before rest : List (Schema × Job)}

@[simp] theorem busy_append (first second : List (Schema × Job)) :
    busy (first ++ second) = busy first + busy second := List.countP_append

@[simp] theorem busy_cons (schema : Schema) (job : Job) (rest : List (Schema × Job)) :
    busy ((schema, job) :: rest) = busy rest + if job.isBusy then 1 else 0 := List.countP_cons

theorem faults_waiting (schemas : List Schema) : faults (waiting schemas) = [] := by
  simp [faults, waiting, Job.fault?]

/-- The first fault is one that `Tells` admits. -/
theorem tells_head (pool : Pool) : pool.Tells (faults pool.jobs).head? := by
  unfold Tells
  cases faults pool.jobs with
  | nil => exact .inl ⟨rfl, rfl⟩
  | cons fault others => exact .inr ⟨fault, List.mem_cons_self, rfl⟩

theorem busy_waiting (schemas : List Schema) : busy (waiting schemas) = 0 := by
  induction schemas with
  | nil => rfl
  | cons schema schemas ih => simpa [waiting, Job.isBusy] using ih

/-- `Progress.write` is a run of `Step` from waiting to written or failed. -/
theorem write_reaches (room : busy (before ++ rest) < limit) (progress : Progress)
    (schema : Schema) :
    ∃ job : Job, job.isOver = true ∧
      (progress.write render directory schema).failure = (progress.failure <|> job.fault?) ∧
      ReflTransGen (Step render limit directory)
        ⟨progress.files, before ++ (schema, .waiting) :: rest, progress.written⟩
        ⟨(progress.write render directory schema).files, before ++ (schema, job) :: rest,
          (progress.write render directory schema).written⟩ := by
  have free : busy (before ++ (schema, .waiting) :: rest) < limit := by
    simpa [Job.isBusy] using room
  unfold Progress.write writeModule
  cases text : renderModule render schema with
  | error fault => exact ⟨.failed fault, rfl, rfl, .single (.refuses free text)⟩
  | ok _ =>
    dsimp only
    cases opened : openModule directory schema progress.files with
    | error fault =>
      exact ⟨.failed fault, rfl, rfl, .head (.renders free text) (.single (.fails opened))⟩
    | ok found =>
      obtain ⟨file, emptied⟩ := found
      dsimp only
      cases filled : fillModule render schema file emptied with
      | mk outcome after =>
        have opens : ReflTransGen (Step render limit directory)
            ⟨progress.files, before ++ (schema, .waiting) :: rest, progress.written⟩
            ⟨emptied, before ++ (schema, .opened file) :: rest, progress.written⟩ :=
          .head (.renders free text) (.single (.opens opened))
        cases outcome with
        | error fault => exact ⟨.failed fault, rfl, rfl, opens.tail (.cuts filled)⟩
        | ok _ =>
          refine ⟨.written, rfl, ?_, opens.tail (.fills filled)⟩
          cases progress.failure <;> rfl

/-- `writeAll` is the run of one worker alone. -/
theorem writeAll_reaches (render : Renderer) (directory : Path) (room : busy (before ++ rest) < limit)
    (progress : Progress) (schemas : List Schema) :
    ∃ jobs : List (Schema × Job), jobs.map Prod.fst = schemas ∧
      (∀ job ∈ jobs, job.2.isOver = true) ∧
      (writeAll render directory progress schemas).failure =
        (progress.failure <|> (faults jobs).head?) ∧
      ReflTransGen (Step render limit directory)
        ⟨progress.files, before ++ (waiting schemas ++ rest), progress.written⟩
        ⟨(writeAll render directory progress schemas).files, before ++ (jobs ++ rest),
          (writeAll render directory progress schemas).written⟩ := by
  induction schemas generalizing progress before with
  | nil =>
    refine ⟨[], rfl, List.forall_mem_nil _, ?_, .refl⟩
    cases progress with
    | mk files written failure => cases failure <;> rfl
  | cons schema schemas ih =>
    have free : busy (before ++ (waiting schemas ++ rest)) < limit := by
      simpa [busy_waiting] using room
    obtain ⟨job, ended, failure, first⟩ := write_reaches free progress schema
    have next : busy (before ++ [(schema, job)] ++ rest) < limit := by
      simpa [Job.isBusy_of_isOver ended] using room
    obtain ⟨jobs, names, others, later, steps⟩ :=
      ih next (progress.write render directory schema)
    refine ⟨(schema, job) :: jobs, ?_, ?_, ?_, ?_⟩
    · rw [List.map_cons, names]
    · exact List.forall_mem_cons.mpr ⟨ended, others⟩
    · have told : (writeAll render directory progress (schema :: schemas)).failure =
          ((progress.write render directory schema).failure <|> (faults jobs).head?) := later
      rw [told, failure]
      cases job <;> cases progress.failure <;> rfl
    · rw [List.append_assoc, List.append_assoc] at steps
      exact first.trans steps

/-- `writeUntilFailure` is reached by the run of one worker. -/
theorem writeUntilFailure_reaches (render : Renderer) (directory : Path) (schemas : List Schema)
    (base : FileTree) : ∃ pool : Pool,
    ReflTransGen (Step render 1 directory) (.start schemas base) pool ∧
      (∀ job ∈ pool.jobs, job.2.isBusy = false) ∧
      pool.Tells (writeUntilFailure render directory { files := base } schemas).failure ∧
      ((writeUntilFailure render directory { files := base } schemas).failure = none →
        pool.IsFinished) ∧
      (writeUntilFailure render directory { files := base } schemas).files = pool.files ∧
      (writeUntilFailure render directory { files := base } schemas).written = pool.written := by
  obtain ⟨done, left, rfl, same, all⟩ :=
    writeUntilFailure_eq render directory { files := base } schemas
  have room : busy ([] ++ waiting left) < 1 := by simp [busy_waiting]
  obtain ⟨jobs, -, ended, failure, steps⟩ :=
    writeAll_reaches render directory room { files := base } done
  rw [same]
  generalize writeAll render directory { files := base } done = progress at all failure steps
  refine ⟨⟨progress.files, jobs ++ waiting left, progress.written⟩, ?_, ?_, ?_, ?_, rfl, rfl⟩
  · simpa only [start, waiting, List.map_append, List.nil_append] using steps
  · intro job member
    rcases List.mem_append.mp member with inside | inside
    · exact Job.isBusy_of_isOver (ended job inside)
    · obtain ⟨schema, -, rfl⟩ := List.mem_map.mp inside
      rfl
  · have told := tells_head ⟨progress.files, jobs ++ waiting left, progress.written⟩
    have quiet : faults (jobs ++ waiting left) = faults jobs := by
      rw [faults, List.filterMap_append, ← faults, ← faults, faults_waiting, List.append_nil]
    rw [quiet] at told
    rw [failure]
    exact told
  · intro clear job member
    obtain rfl := all clear
    exact ended job (by simpa [waiting] using member)

end Pool

/-- `writeAll` is an `Outcome` for every number of workers. -/
theorem outcome_writeAll {workers : Option Int} (several : 1 < schemas.length)
    (enough : workers.any (· ≤ 0) = false) (files : FileTree) :
    Outcome render directory schemas files (.parallel workers)
      (writeAll render directory { files } schemas) := by
  obtain ⟨limit, positive, number⟩ : ∃ limit : Nat, 0 < limit ∧
      ∀ number ∈ workers, number = limit := by
    cases workers with
    | none => exact ⟨1, Nat.one_pos, fun _ member => nomatch member⟩
    | some number =>
      have high : 0 < number := by simpa using enough
      refine ⟨number.toNat, by omega, ?_⟩
      rintro _ ⟨⟩
      omega
  let all := writeAll render directory { files } schemas
  have room : Pool.busy ([] ++ []) < limit := positive
  obtain ⟨jobs, -, ended, failure, steps⟩ :=
    Pool.writeAll_reaches render directory room { files } schemas
  rw [List.append_nil, List.append_nil] at steps
  have tells : Pool.Tells ⟨all.files, [] ++ jobs, all.written⟩ all.failure := by
    rw [failure]
    exact Pool.tells_head _
  exact .workers several positive number steps ended tells

theorem isPossible_writeModules (render : Renderer) :
    Writing.IsPossible (writeModules render) render := by
  intro mode directory schemas files
  cases mode with
  | sequential => exact .alone
  | parallel workers =>
    unfold writeModules
    dsimp only
    by_cases few : schemas.length ≤ 1
    · rw [if_pos few]
      exact .single few
    · have several : 1 < schemas.length := Nat.not_le.mp few
      simp only [if_neg few]
      split
      · rename_i short
        obtain ⟨number, rfl, low⟩ := (Option.any_eq_true _ _).mp short
        exact .noWorkers several (of_decide_eq_true low)
      · rename_i enough
        exact outcome_writeAll several (Bool.not_eq_true _ ▸ enough) files

namespace Pool

variable {limit : Nat}

/-- Termination measure: the number of steps left if no module fails. -/
def left (pool : Pool) : Nat :=
  3 * (pool.jobs.countP fun job => job.2.isWaiting) +
    (pool.jobs.countP fun job => job.2.isRendered) + busy pool.jobs

theorem Step.left_lt {pool last : Pool} (step : Step render limit directory pool last) :
    last.left < pool.left := by
  cases step <;> simp [left, Job.isWaiting, Job.isRendered, Job.isBusy] <;> omega

/-- Progress: a pool that is not finished has a `Step`. -/
theorem exists_step (render : Renderer) (directory : Path) {pool : Pool} (positive : 0 < limit)
    (unfinished : ¬pool.IsFinished) : ∃ last, Step render limit directory pool last := by
  obtain ⟨files, jobs, written⟩ := pool
  by_cases inHand : ∃ job ∈ jobs, job.2.isBusy = true
  · obtain ⟨⟨schema, job⟩, member, inHand⟩ := inHand
    obtain ⟨before, rest, rfl⟩ := List.append_of_mem member
    cases job with
    | rendered =>
      cases result : openModule directory schema files with
      | error fault => exact ⟨_, .fails result⟩
      | ok found => exact ⟨_, .opens result⟩
    | opened file =>
      cases result : fillModule render schema file files with
      | mk outcome after =>
        cases outcome with
        | error fault => exact ⟨_, .cuts result⟩
        | ok _ => exact ⟨_, .fills result⟩
    | waiting => cases inHand
    | written => cases inHand
    | failed fault => cases inHand
  · have idle : busy jobs = 0 := by
      rw [busy, List.countP_eq_zero]
      exact fun job member found => inHand ⟨job, member, found⟩
    obtain ⟨⟨schema, job⟩, member, other⟩ : ∃ job ∈ jobs, job.2.isOver ≠ true := by
      simpa [IsFinished] using unfinished
    obtain ⟨before, rest, rfl⟩ := List.append_of_mem member
    cases job with
    | waiting =>
      cases result : renderModule render schema with
      | error fault => exact ⟨_, .refuses (idle ▸ positive) result⟩
      | ok _ => exact ⟨_, .renders (idle ▸ positive) result⟩
    | rendered => exact absurd ⟨_, member, rfl⟩ inHand
    | opened file => exact absurd ⟨_, member, rfl⟩ inHand
    | written => exact absurd rfl other
    | failed fault => exact absurd rfl other

/-- From every pool a finished one is reachable. -/
theorem exists_finished (render : Renderer) (directory : Path) (positive : 0 < limit)
    (pool : Pool) :
    ∃ last, ReflTransGen (Step render limit directory) pool last ∧ last.IsFinished := by
  -- on the steps that are left, of which each step takes one at least
  induction size : pool.left using Nat.strongRecOn generalizing pool with
  | ind size ih =>
    by_cases finished : pool.IsFinished
    · exact ⟨pool, .refl, finished⟩
    · obtain ⟨next, step⟩ := exists_step render directory positive finished
      obtain ⟨last, steps, finished⟩ := ih _ (size ▸ step.left_lt) next rfl
      exact ⟨last, .head step steps, finished⟩

/-- Every reachable pool of several schemas leads to an `Outcome`, so `Step` has no deadlock. -/
theorem exists_outcome {files : FileTree} {pool : Pool} (several : 1 < schemas.length)
    (positive : 0 < limit)
    (steps : ReflTransGen (Step render limit directory) (.start schemas files) pool) :
    ∃ last failure, ReflTransGen (Step render limit directory) pool last ∧
      Outcome render directory schemas files (.parallel (some limit))
        { files := last.files, written := last.written, failure } := by
  obtain ⟨last, more, finished⟩ := exists_finished render directory positive pool
  refine ⟨last, _, more, .workers several positive ?_ (steps.trans more) finished (tells_head _)⟩
  rintro number ⟨⟩
  rfl

end Pool
end TypedCatalog.Declaration
