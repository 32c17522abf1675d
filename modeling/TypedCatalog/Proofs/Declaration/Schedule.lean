import Mathlib.Data.List.Nodup
import TypedCatalog.Proofs.Declaration.Pool
import TypedCatalog.Proofs.File.Directory
import TypedCatalog.Proofs.Name

/-! Invariants of `Pool.Step`. `Pool.IsFramed` holds for every file tree: only locations that module
names lead to change. `Pool.IsSound` holds under `AreSeparate`: the state of each job describes its
own file, independently of the other jobs. -/
namespace TypedCatalog.Declaration

open Catalog
open Relation (ReflTransGen)

/-- The location of a module name in the directory, before links. -/
def entryOf (here : Location) (schema : Schema) : Location := here ++ [moduleFile schema]

theorem isFileName_moduleFile (schema : Schema) : FileTree.IsFileName (moduleFile schema) := by
  constructor
  · intro same
    have first : (moduleFile schema).head? = some '.' := congrArg List.head? same
    cases first
  · intro c member zero
    rcases List.mem_append.mp member with inside | inside
    · have holds := Name.isModuleChar_moduleName _ c inside
      rw [Char.ofNat_toNat c |>.symm, zero] at holds
      revert holds
      decide
    · have holds : (".ts".toList.all fun c => c.toNat ≠ 0) = true := rfl
      exact of_decide_eq_true (List.all_eq_true.mp holds c inside) zero

section Modules

variable {render : Renderer} {directory : Path} {here file : Location} {schema : Schema}
  {files other after base : FileTree} {fault : Fault}

theorem openModule_ok (opened : openModule directory schema files = .ok (file, after)) :
    files.openFile (directory.below (moduleFile schema)) = .ok (file, after) := by
  unfold openModule at opened
  cases found : files.openFile (directory.below (moduleFile schema)) with
  | error fault =>
    rw [found] at opened
    cases opened
  | ok file =>
    rw [found] at opened
    cases opened
    rfl

theorem fillModule_files (render : Renderer) (schema : Schema) (file : Location)
    (files : FileTree) :
    (fillModule render schema file files).2 = files.fill file ((render schema).bytes schema) := by
  unfold fillModule
  dsimp only
  split
  · rfl
  · rfl

/-- Whether `fillModule` fails depends on the renderer only. -/
theorem fillModule_result (render : Renderer) (schema : Schema) (file place : Location)
    (files other : FileTree) :
    (fillModule render schema file files).1 = (fillModule render schema place other).1 := by
  unfold fillModule
  dsimp only
  split
  · rfl
  · rfl

theorem writeModule_refused (text : renderModule render schema = .error fault) :
    writeModule render directory schema files = (.error fault, files) := by
  rw [writeModule, text]

theorem writeModule_unopened (text : renderModule render schema = .ok ())
    (failed : openModule directory schema files = .error fault) :
    writeModule render directory schema files = (.error fault, files) := by
  rw [writeModule, text]
  dsimp only
  rw [failed]

theorem writeModule_opened (text : renderModule render schema = .ok ())
    (opened : openModule directory schema files = .ok (file, after)) :
    writeModule render directory schema files = fillModule render schema file after := by
  rw [writeModule, text]
  dsimp only
  rw [opened]

/-- The fault names the schema. -/
def BlamedOn (schema : Schema) (fault : Fault) : Prop := ∃ cause, fault = .moduleOf schema.name cause

theorem renderModule_error (refused : renderModule render schema = .error fault) :
    BlamedOn schema fault := by
  unfold renderModule at refused
  split at refused
  · cases refused
    exact ⟨_, rfl⟩
  · cases refused

theorem openModule_error (failed : openModule directory schema files = .error fault) :
    BlamedOn schema fault := by
  unfold openModule at failed
  cases found : files.openFile (directory.below (moduleFile schema)) with
  | error cause =>
    rw [found] at failed
    cases failed
    exact ⟨cause, rfl⟩
  | ok _ =>
    rw [found] at failed
    cases failed

theorem fillModule_error (failed : (fillModule render schema file files).1 = .error fault) :
    BlamedOn schema fault := by
  unfold fillModule at failed
  dsimp only at failed
  split at failed
  · cases failed
    exact ⟨_, rfl⟩
  · cases failed

/-- A successful `writeModule` renders the whole module, at the location of its path. -/
theorem writeModule_ok (written : (writeModule render directory schema files).1 = .ok ()) :
    (render schema).bytes schema = moduleBytes schema ∧
      ∃ file, files.locate (directory.below (moduleFile schema)) = .ok file := by
  cases text : renderModule render schema with
  | error fault =>
    rw [writeModule_refused text] at written
    cases written
  | ok _ =>
    cases opened : openModule directory schema files with
    | error fault =>
      rw [writeModule_unopened text opened] at written
      cases written
    | ok found =>
      refine ⟨?_, found.1, (FileTree.openFile_ok (openModule_ok opened)).2.1⟩
      rw [writeModule_opened text opened] at written
      unfold renderModule at text
      unfold fillModule at written
      cases rendering : render schema with
      | refused fault =>
        rw [rendering] at text
        cases text
      | cut size fault =>
        rw [rendering] at written
        cases written
      | whole => rfl

/-- Every location on the `Links.way` of the module is as before. -/
def IsUntouched (base : FileTree) (here : Location) (files : FileTree) (schema : Schema) : Prop :=
  ∀ place ∈ base.links.way (entryOf here schema), files.node? place = base.node? place

/-- `openModule` depends only on the locations on the `Links.way` of the module. -/
theorem openModule_congr (stat : base.stat directory = .ok (here, .directory))
    (keeps : base.KeepsDirectories files) (untouched : IsUntouched base here files schema) :
    (openModule directory schema files).map (·.1) = (openModule directory schema base).map (·.1) := by
  have same := FileTree.openFile_congr stat (keeps.stat stat) (isFileName_moduleFile schema)
    keeps.links fun place way => FileTree.isFile?_congr (untouched place way)
  unfold openModule
  revert same
  cases files.openFile (directory.below (moduleFile schema)) <;>
    cases base.openFile (directory.below (moduleFile schema)) <;>
    simp [Except.map, Except.mapError]

end Modules

/-- Directories, home and links are preserved, and so is every location that is no module output. -/
structure Framed (base : FileTree) (directory : Path) (schemas : List Schema)
    (files : FileTree) : Prop where
  same : base.SameDirectories files
  others : ∀ location,
    (∀ schema ∈ schemas, base.locate (directory.below (moduleFile schema)) ≠ .ok location) →
    files.node? location = base.node? location

variable {render : Renderer} {base files after : FileTree} {directory : Path}
  {here file : Location} {schema : Schema} {schemas : List Schema}

theorem Framed.refl (base : FileTree) (directory : Path) (schemas : List Schema) :
    Framed base directory schemas base := ⟨.refl base, fun _ _ => rfl⟩

theorem Framed.change (framed : Framed base directory schemas files) (member : schema ∈ schemas)
    (located : base.locate (directory.below (moduleFile schema)) = .ok file)
    (same : files.SameDirectories after)
    (elsewhere : ∀ location, location ≠ file → after.node? location = files.node? location) :
    Framed base directory schemas after := by
  refine ⟨framed.same.trans same, ?_⟩
  intro location others
  have other : location ≠ file := fun at' => others schema member (at' ▸ located)
  rw [elsewhere location other, framed.others location others]

/-- The path of the module leads to the location, which holds a file or nothing. -/
def Opens (base : FileTree) (directory : Path) (schema : Schema) (file : Location) : Prop :=
  base.locate (directory.below (moduleFile schema)) = .ok file ∧
    base.node? file ≠ some .directory

theorem Framed.opens (framed : Framed base directory schemas files)
    (opened : openModule directory schema files = .ok (file, after)) :
    Opens base directory schema file ∧ after = files.put file (.file [] files.now) := by
  obtain ⟨-, located, free, emptied⟩ := FileTree.openFile_ok (openModule_ok opened)
  refine ⟨⟨framed.same.locate_iff.mp located, ?_⟩, emptied⟩
  exact fun stands => free (framed.same.keeps.directories file stands)

/-- Link-independent facts of a job: an open file is where the path leads, and a fault names the
schema. -/
def Job.Reports (base : FileTree) (directory : Path) (schema : Schema) : Job → Prop
  | .opened file => Opens base directory schema file
  | .failed fault => BlamedOn schema fault
  | _ => True

namespace Pool

/-- State invariant without a hypothesis on links, relative to the files before all steps. -/
structure IsFramed (base : FileTree) (directory : Path) (schemas : List Schema)
    (pool : Pool) : Prop extends Framed base directory schemas pool.files where
  listed : pool.jobs.map Prod.fst = schemas
  reports : ∀ job ∈ pool.jobs, job.2.Reports base directory job.1
  written : pool.written.Perm ((pool.jobs.filter fun job => job.2.isWritten).map Prod.fst)

theorem isFramed_start (base : FileTree) (directory : Path) (schemas : List Schema) :
    IsFramed base directory schemas (start schemas base) := by
  refine ⟨.refl base directory schemas, ?_, ?_, ?_⟩
  · simp [start, waiting, Function.comp_def]
  · intro job member
    obtain ⟨schema, -, rfl⟩ := List.mem_map.mp member
    exact trivial
  · have nothing : (waiting schemas).filter (fun job => job.2.isWritten) = [] := by
      simp [waiting, Job.isWritten]
    simp [start, nothing]

variable {before rest : List (Schema × Job)} {old job : Job} {written more : List Schema}

/-- `IsFramed` is preserved by a step that changes one job. -/
theorem IsFramed.step
    (framed : IsFramed base directory schemas ⟨files, before ++ (schema, old) :: rest, written⟩)
    (changed : Framed base directory schemas after)
    (reports : job.Reports base directory schema)
    (count : more.Perm (((before ++ (schema, job) :: rest).filter fun job =>
      job.2.isWritten).map Prod.fst)) :
    IsFramed base directory schemas ⟨after, before ++ (schema, job) :: rest, more⟩ := by
  refine ⟨changed, ?_, ?_, count⟩
  · rw [← framed.listed]
    simp
  · intro other member
    rcases List.mem_append.mp member with inside | inside
    · exact framed.reports other (List.mem_append_left _ inside)
    · rcases List.mem_cons.mp inside with rfl | inside
      · exact reports
      · exact framed.reports other (List.mem_append_right _ (List.mem_cons_of_mem _ inside))

theorem IsFramed.mem
    (framed : IsFramed base directory schemas ⟨files, before ++ (schema, old) :: rest, written⟩) :
    schema ∈ schemas := by
  rw [← framed.listed]
  simp

/-- `IsFramed` is preserved by filling an open file. -/
theorem IsFramed.filled {result : Except Fault Unit}
    (framed : IsFramed base directory schemas
      ⟨files, before ++ (schema, .opened file) :: rest, written⟩)
    (filled : fillModule render schema file files = (result, after)) :
    Framed base directory schemas after := by
  have opens : Opens base directory schema file := framed.reports (schema, .opened file) (by simp)
  obtain ⟨located, free⟩ := opens
  have changed := fillModule_files render schema file files
  rw [filled] at changed
  obtain rfl : after = _ := changed
  refine framed.toFramed.change framed.mem located (.fill ?_) ?_
  · exact fun stands => free (framed.same.back.directories file stands)
  · exact fun location other => FileTree.node?_fill_ne (Ne.symm other)

theorem IsFramed.next {limit : Nat} {pool last : Pool}
    (framed : IsFramed base directory schemas pool)
    (step : Step render limit directory pool last) : IsFramed base directory schemas last := by
  have count := framed.written
  cases step with
  | renders room text =>
    refine framed.step framed.toFramed trivial ?_
    simpa [Job.isWritten] using count
  | refuses room refused =>
    refine framed.step framed.toFramed (renderModule_error refused) ?_
    simpa [Job.isWritten] using count
  | opens opened =>
    obtain ⟨opens, rfl⟩ := framed.opens opened
    refine framed.step (framed.toFramed.change framed.mem opens.1 (.put_file ?_) ?_) opens ?_
    · exact fun stands => opens.2 (framed.same.back.directories _ stands)
    · exact fun location other => FileTree.node?_put_ne (Ne.symm other)
    · simpa [Job.isWritten] using count
  | fails failed =>
    refine framed.step framed.toFramed (openModule_error failed) ?_
    simpa [Job.isWritten] using count
  | @fills _ _ before rest schema file written filled =>
    refine framed.step (framed.filled filled) trivial ?_
    simp only [List.filter_append, List.filter_cons, Job.isWritten, Bool.false_eq_true, if_false,
      if_true, List.map_append, List.map_cons] at count ⊢
    exact (List.perm_append_singleton schema written).trans
      ((count.cons schema).trans List.perm_middle.symm)
  | cuts filled =>
    refine framed.step (framed.filled filled) (fillModule_error (congrArg Prod.fst filled)) ?_
    simpa [Job.isWritten] using count

theorem IsFramed.reaches {limit : Nat} {pool last : Pool}
    (framed : IsFramed base directory schemas pool)
    (steps : ReflTransGen (Step render limit directory) pool last) :
    IsFramed base directory schemas last := by
  induction steps with
  | refl => exact framed
  | tail _ step ih => exact ih.next step

end Pool

/-- Module names are pairwise different, and none lands on the `Links.way` of another. -/
structure AreSeparate (base : FileTree) (here : Location) (schemas : List Schema) : Prop where
  distinct : (schemas.map moduleFile).Nodup
  apart : ∀ first ∈ schemas, ∀ second ∈ schemas, moduleFile first ≠ moduleFile second →
    base.links.landing (entryOf here first) ∉ base.links.way (entryOf here second)

/-- The module is a file with these bytes. -/
def HoldsBytes (base : FileTree) (here : Location) (files : FileTree) (schema : Schema)
    (bytes : List UInt8) : Prop :=
  ∃ changed, files.node? (base.links.landing (entryOf here schema)) = some (.file bytes changed)

/-- What the state of a job implies for its own file, relative to the files before all steps. -/
def Job.Fits (render : Renderer) (base : FileTree) (directory : Path) (here : Location)
    (files : FileTree) (schema : Schema) : Job → Prop
  | .waiting => IsUntouched base here files schema
  | .rendered => renderModule render schema = .ok () ∧ IsUntouched base here files schema
  | .opened file => renderModule render schema = .ok () ∧
      file = base.links.landing (entryOf here schema) ∧ HoldsBytes base here files schema [] ∧
      ∃ emptied, openModule directory schema base = .ok (file, emptied)
  | .written => HoldsBytes base here files schema ((render schema).bytes schema) ∧
      (writeModule render directory schema base).1 = .ok ()
  | .failed fault => (IsUntouched base here files schema ∨
        HoldsBytes base here files schema ((render schema).bytes schema)) ∧
      (writeModule render directory schema base).1 = .error fault

theorem Job.Fits.elsewhere {job : Job} (fits : job.Fits render base directory here files schema)
    (same : ∀ place ∈ base.links.way (entryOf here schema),
      after.node? place = files.node? place) :
    job.Fits render base directory here after schema := by
  have untouched (before : IsUntouched base here files schema) :
      IsUntouched base here after schema :=
    fun place way => (same place way).trans (before place way)
  have holds {bytes : List UInt8} (before : HoldsBytes base here files schema bytes) :
      HoldsBytes base here after schema bytes := by
    obtain ⟨changed, stands⟩ := before
    exact ⟨changed, (same _ (Links.landing_mem_way _)).trans stands⟩
  cases job with
  | waiting => exact untouched fits
  | rendered => exact ⟨fits.1, untouched fits.2⟩
  | opened file => exact ⟨fits.1, fits.2.1, holds fits.2.2.1, fits.2.2.2⟩
  | written => exact ⟨holds fits.1, fits.2⟩
  | failed fault => exact ⟨fits.1.imp untouched holds, fits.2⟩

namespace Pool

/-- State invariant for separate modules. -/
structure IsSound (render : Renderer) (base : FileTree) (directory : Path) (here : Location)
    (schemas : List Schema) (pool : Pool) : Prop extends
    IsFramed base directory schemas pool where
  fits : ∀ job ∈ pool.jobs, job.2.Fits render base directory here pool.files job.1

theorem isSound_start (render : Renderer) (base : FileTree) (directory : Path) (here : Location)
    (schemas : List Schema) : IsSound render base directory here schemas (start schemas base) := by
  refine ⟨isFramed_start base directory schemas, ?_⟩
  intro job member
  obtain ⟨schema, -, rfl⟩ := List.mem_map.mp member
  exact fun _ _ => rfl

variable {before rest : List (Schema × Job)} {old job : Job} {written more : List Schema}
  {limit : Nat}

theorem IsFramed.apart
    (framed : IsFramed base directory schemas ⟨files, before ++ (schema, old) :: rest, written⟩)
    (separate : AreSeparate base here schemas) : ∀ other ∈ before ++ rest,
      base.links.landing (entryOf here schema) ∉ base.links.way (entryOf here other.1) := by
  intro other member
  have listed : (before ++ (schema, old) :: rest).map Prod.fst = schemas := framed.listed
  have inside : other.1 ∈ schemas := by
    rw [← listed]
    refine List.mem_map_of_mem ?_
    simp only [List.mem_append, List.mem_cons] at member ⊢
    tauto
  refine separate.apart schema framed.mem other.1 inside ?_
  intro same
  have distinct := separate.distinct
  rw [← listed, List.map_map, List.map_append, List.map_cons] at distinct
  apply (List.nodup_cons.mp (List.nodup_middle.mp distinct)).1
  rw [← List.map_append]
  exact List.mem_map.mpr ⟨other, member, same.symm⟩

/-- `IsSound` is preserved by a step that changes one job and only its own file. -/
theorem IsSound.step
    (sound : IsSound render base directory here schemas
      ⟨files, before ++ (schema, old) :: rest, written⟩)
    (framed : IsFramed base directory schemas ⟨after, before ++ (schema, job) :: rest, more⟩)
    (separate : AreSeparate base here schemas)
    (elsewhere : ∀ location, location ≠ base.links.landing (entryOf here schema) →
      after.node? location = files.node? location)
    (fits : job.Fits render base directory here after schema) :
    IsSound render base directory here schemas ⟨after, before ++ (schema, job) :: rest, more⟩ := by
  refine ⟨framed, ?_⟩
  intro other member
  have kept (inside : other ∈ before ++ rest) :
      other.2.Fits render base directory here after other.1 := by
    refine (sound.fits other ?_).elsewhere fun place way => elsewhere place ?_
    · simp only [List.mem_append, List.mem_cons] at inside ⊢
      tauto
    · rintro rfl
      exact sound.toIsFramed.apart separate other inside way
  rcases List.mem_append.mp member with inside | inside
  · exact kept (List.mem_append_left _ inside)
  · rcases List.mem_cons.mp inside with rfl | inside
    · exact fits
    · exact kept (List.mem_append_right _ inside)

/-- `IsSound` is preserved by filling, after which the file holds the rendered bytes. -/
theorem IsSound.filled {result : Except Fault Unit}
    (sound : IsSound render base directory here schemas
      ⟨files, before ++ (schema, .opened file) :: rest, written⟩)
    (filled : fillModule render schema file files = (result, after)) :
    HoldsBytes base here after schema ((render schema).bytes schema) ∧
      (writeModule render directory schema base).1 = result ∧
      ∀ location, location ≠ base.links.landing (entryOf here schema) →
        after.node? location = files.node? location := by
  have fits : Job.Fits render base directory here files schema (.opened file) :=
    sound.fits (schema, .opened file) (by simp)
  obtain ⟨text, rfl, ⟨changed, empty⟩, emptied, opened⟩ := fits
  have inside : base.links.landing (entryOf here schema) ≠ [] := by
    intro root
    rw [root] at empty
    cases empty
  have changes := fillModule_files render schema (base.links.landing (entryOf here schema)) files
  have ends := fillModule_result render schema (base.links.landing (entryOf here schema))
    (base.links.landing (entryOf here schema)) emptied files
  rw [filled] at changes ends
  obtain rfl : after = _ := changes
  refine ⟨⟨_, FileTree.node?_fill inside empty⟩, ?_, ?_⟩
  · rw [writeModule_opened text opened]
    exact ends
  · exact fun location other => FileTree.node?_fill_ne (Ne.symm other)

/-- `IsSound` is preserved by every `Step`. -/
theorem IsSound.next {pool last : Pool}
    (sound : IsSound render base directory here schemas pool)
    (stat : base.stat directory = .ok (here, .directory))
    (separate : AreSeparate base here schemas) (step : Step render limit directory pool last) :
    IsSound render base directory here schemas last := by
  have framed := sound.toIsFramed.next step
  cases step with
  | @renders files before rest schema written room text =>
    have fits : IsUntouched base here files schema := sound.fits (schema, .waiting) (by simp)
    exact sound.step framed separate (fun _ _ => rfl) ⟨text, fits⟩
  | @refuses files before rest schema fault written room refused =>
    have fits : IsUntouched base here files schema := sound.fits (schema, .waiting) (by simp)
    refine sound.step framed separate (fun _ _ => rfl) ⟨.inl fits, ?_⟩
    rw [writeModule_refused refused]
  | @opens files after before rest schema file written opened =>
    have fits : Job.Fits render base directory here files schema .rendered :=
      sound.fits (schema, .rendered) (by simp)
    obtain ⟨text, untouched⟩ := fits
    have same := openModule_congr stat sound.same.keeps untouched
    rw [opened] at same
    obtain ⟨⟨place, emptied⟩, opens, samePlace⟩ := map_ok same.symm
    obtain rfl : place = file := samePlace
    obtain ⟨landed, free, changed⟩ := FileTree.opened_below (sound.same.keeps.stat stat)
      (isFileName_moduleFile schema) (openModule_ok opened)
    rw [sound.same.keeps.links] at landed
    subst changed
    refine sound.step framed separate ?_ ⟨text, landed, ⟨files.now, ?_⟩, emptied, opens⟩
    · intro location other
      exact FileTree.node?_put_ne (landed ▸ Ne.symm other)
    · rw [entryOf, ← landed, FileTree.node?_put (FileTree.ne_nil_of_node? free)]
  | @fails files before rest schema fault written failed =>
    have fits : Job.Fits render base directory here files schema .rendered :=
      sound.fits (schema, .rendered) (by simp)
    obtain ⟨text, untouched⟩ := fits
    -- The way is as it was before all steps, so that this module would have failed then, too.
    have same := openModule_congr stat sound.same.keeps untouched
    rw [failed] at same
    refine sound.step framed separate (fun _ _ => rfl) ⟨.inl untouched, ?_⟩
    rw [writeModule_unopened text (map_error same.symm)]
  | @fills files after before rest schema file written filled =>
    obtain ⟨holds, ends, elsewhere⟩ := sound.filled filled
    exact sound.step framed separate elsewhere ⟨holds, ends⟩
  | @cuts files after before rest schema file fault written filled =>
    obtain ⟨holds, ends, elsewhere⟩ := sound.filled filled
    exact sound.step framed separate elsewhere ⟨.inr holds, ends⟩

theorem IsSound.reaches {pool last : Pool}
    (sound : IsSound render base directory here schemas pool)
    (stat : base.stat directory = .ok (here, .directory))
    (separate : AreSeparate base here schemas)
    (steps : ReflTransGen (Step render limit directory) pool last) :
    IsSound render base directory here schemas last := by
  induction steps with
  | refl => exact sound
  | tail _ step ih => exact ih.next stat separate step

end Pool
end TypedCatalog.Declaration
