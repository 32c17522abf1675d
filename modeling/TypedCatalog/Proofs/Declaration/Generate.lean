import TypedCatalog.Proofs.Declaration.Exports
import TypedCatalog.Proofs.Declaration.Outcome

/-! Frame and postcondition of `generateBy`. The only locations whose files change satisfy
`IsOutput`: the path of a module or of the index leads there, possibly through a link. Under
`AreApart` these paths lead to pairwise different files, and a run that returns is `Complete`. -/
namespace TypedCatalog.Declaration

open Catalog

variable {render : Renderer} {writing : Writing} {mode : Mode} {directory : Path}
  {schemas : List Schema} {tree base files : FileTree} {here : Location} {progress : Progress}

/-- The bytes of the index. -/
def indexBytes (schemas : List Schema) : List UInt8 := Text.Utf8.encode (indexModule schemas)

theorem isFileName_indexName : FileTree.IsFileName indexName := by
  constructor
  · intro same
    have first : indexName.head? = some '.' := congrArg List.head? same
    cases first
  · intro c member zero
    have holds : (indexName.all fun c => c.toNat ≠ 0) = true := rfl
    exact of_decide_eq_true (List.all_eq_true.mp holds c member) zero

/-- Inversion of `finish`: a module failed, the index failed, or everything was written. -/
inductive Finished (directory : Path) (schemas : List Schema) (progress : Progress) :
    Generation → Prop where
  | module {fault : Fault} : progress.failure = some fault →
      Finished directory schemas progress (progress.ended progress.files (.error fault))
  | index {fault : Fault} : progress.failure = none →
      progress.files.writeBytes (directory.below indexName) (indexBytes schemas) = .error fault →
      Finished directory schemas progress (progress.ended progress.files (.error fault))
  | all {files : FileTree} : progress.failure = none →
      progress.files.writeBytes (directory.below indexName) (indexBytes schemas) = .ok files →
      Finished directory schemas progress (progress.ended files (.ok schemas.length))

theorem finished (directory : Path) (schemas : List Schema) (progress : Progress) :
    Finished directory schemas progress (finish directory schemas progress) := by
  unfold finish
  split
  · rename_i fault failure
    exact .module failure
  · rename_i failure
    split
    · rename_i fault written
      exact .index failure written
    · rename_i files written
      exact .all failure written

/-- Inversion of `generateBy`: a clash of module names, a directory that cannot be made, or a run of
`finish` on the files with the directory. -/
inductive Generated (writing : Writing) (mode : Mode) (directory : Path) (schemas : List Schema)
    (tree : FileTree) : Generation → Prop where
  | clash {owner schema : Schema} : clash? [] schemas = some (owner, schema) →
      Generated writing mode directory schemas tree
        { files := tree
          result := .error (.sameModule owner.name schema.name (Name.moduleName schema.name)) }
  | unmade {fault : Fault} {files : FileTree} : clash? [] schemas = none →
      FileTree.makeDirectory directory tree = (.error fault, files) →
      Generated writing mode directory schemas tree { files, result := .error fault }
  | made {files : FileTree} {done : Generation} : clash? [] schemas = none →
      FileTree.makeDirectory directory tree = (.ok (), files) →
      Finished directory schemas (writing mode directory schemas files) done →
      Generated writing mode directory schemas tree done

theorem generated (writing : Writing) (mode : Mode) (directory : Path) (schemas : List Schema)
    (tree : FileTree) : Generated writing mode directory schemas tree
      (generateBy writing mode directory schemas tree) := by
  unfold generateBy
  split
  · rename_i owner schema clash
    exact .clash clash
  · rename_i clear
    split
    · rename_i fault files made
      exact .unmade clear made
    · rename_i files made
      exact .made clear made (finished directory schemas _)

/-- `Ended` holds of the progress that a possible `Writing` returns. -/
theorem Writing.IsPossible.ended (possible : writing.IsPossible render) (mode : Mode)
    (directory : Path) (schemas : List Schema) (files : FileTree) :
    Ended files directory schemas (writing mode directory schemas files) :=
  (possible mode directory schemas files).ended

/-- The file names of the index and of all modules. -/
def outputNames (schemas : List Schema) : List Text := indexName :: schemas.map moduleFile

theorem isFileName_output {name : Text} (member : name ∈ outputNames schemas) :
    FileTree.IsFileName name := by
  rcases List.mem_cons.mp member with rfl | inside
  · exact isFileName_indexName
  · obtain ⟨schema, -, rfl⟩ := List.mem_map.mp inside
    exact isFileName_moduleFile schema

/-- No output name lands, through links, on the `Links.way` of another. -/
def AreApart (tree : FileTree) (directory : Path) (schemas : List Schema) : Prop :=
  ∀ first ∈ outputNames schemas, ∀ second ∈ outputNames schemas, first ≠ second →
    tree.links.landing (tree.location directory ++ [first]) ∉
      tree.links.way (tree.location directory ++ [second])

/-- Outputs that are no links themselves are apart, for every other link of the tree. -/
theorem areApart_of_direct (direct : ∀ name ∈ outputNames schemas,
    tree.links.target? (tree.location directory ++ [name]) = none) :
    AreApart tree directory schemas := by
  intro first one second two other inside
  rw [Links.landing_of_target? (direct first one), Links.way, direct second two] at inside
  exact other (List.append_cancel_left (List.mem_singleton.mp inside) |> List.singleton_inj.mp)

namespace AreApart

theorem separate (apart : AreApart tree directory schemas) (clear : clash? [] schemas = none)
    (made : FileTree.makeDirectory directory tree = (.ok (), files)) :
    AreSeparate files (tree.location directory) schemas := by
  refine ⟨clear_iff_nodup.mp clear, ?_⟩
  intro first one second two other
  rw [(FileTree.keeps_of_made made).links]
  exact apart _ (List.mem_cons_of_mem _ (List.mem_map_of_mem one)) _
    (List.mem_cons_of_mem _ (List.mem_map_of_mem two)) other

theorem settled (apart : AreApart tree directory schemas) (possible : writing.IsPossible render)
    (mode : Mode) (clear : clash? [] schemas = none)
    (made : FileTree.makeDirectory directory tree = (.ok (), files)) :
    Settled render files directory (tree.location directory) schemas mode
      (writing mode directory schemas files) :=
  (possible mode directory schemas files).settled (FileTree.stat_makeDirectory made)
    (apart.separate clear made)

/-- Under `AreApart` the index and a module lead to different locations. -/
theorem index_ne (apart : AreApart tree directory schemas) {schema : Schema}
    (member : schema ∈ schemas) :
    tree.links.landing (tree.location directory ++ [indexName]) ≠
      tree.links.landing (entryOf (tree.location directory) schema) := by
  intro same
  have way := apart indexName List.mem_cons_self (moduleFile schema)
    (List.mem_cons_of_mem _ (List.mem_map_of_mem member)) (moduleFile_ne_indexName schema).symm
  rw [same] at way
  exact way (Links.landing_mem_way _)

end AreApart

/-- The path of the index leads to the location, or that of a module file over `[A-Za-z0-9_-]`. -/
def IsOutput (files : FileTree) (directory : Path) (schemas : List Schema)
    (location : Location) : Prop :=
  files.locate (directory.below indexName) = .ok location ∨
  ∃ schema ∈ schemas, ∃ stem : Text, (∀ c ∈ stem, Name.isModuleChar c = true) ∧
    moduleFile schema = "types-" ++ stem ++ ".ts" ∧
    files.locate (directory.below ("types-" ++ stem ++ ".ts")) = .ok location

/-- If no output name is a link, an output stands directly in the directory. -/
theorem isOutput_direct {here location : Location}
    (stat : files.stat directory = .ok (here, .directory))
    (direct : ∀ name ∈ outputNames schemas, files.links.target? (here ++ [name]) = none)
    (output : IsOutput files directory schemas location) :
    ∃ name ∈ outputNames schemas, location = here ++ [name] := by
  have leads {name : Text} (member : name ∈ outputNames schemas)
      (located : files.locate (directory.below name) = .ok location) : location = here ++ [name] := by
    rw [FileTree.landing_of_locate stat (isFileName_output member) located,
      Links.landing_of_target? (direct name member)]
  rcases output with located | ⟨schema, member, stem, -, named, located⟩
  · exact ⟨indexName, List.mem_cons_self, leads List.mem_cons_self located⟩
  · rw [← named] at located
    have inside : moduleFile schema ∈ outputNames schemas :=
      List.mem_cons_of_mem _ (List.mem_map_of_mem member)
    exact ⟨moduleFile schema, inside, leads inside located⟩

/-- `Framed` files preserve every location that is no module output. -/
theorem Framed.keepsFile {location : Location} (framed : Framed base directory schemas files)
    (other : ¬IsOutput files directory schemas location) : base.KeepsFile files location := by
  refine .of_node (framed.others location fun schema member located => other (.inr ?_))
  obtain ⟨stem, plain, named⟩ := moduleFile_eq schema
  exact ⟨schema, member, stem, plain, named, named ▸ framed.same.locate_iff.mpr located⟩

theorem IsOutput.mono {location : Location} (same : base.SameDirectories files)
    (output : IsOutput base directory schemas location) :
    IsOutput files directory schemas location := by
  rcases output with located | ⟨schema, member, stem, plain, named, located⟩
  · exact .inl (same.locate_iff.mpr located)
  · exact .inr ⟨schema, member, stem, plain, named, same.locate_iff.mpr located⟩

/-- Frame property: locations that are no `IsOutput` of the final files keep their files. -/
theorem keepsFile_generateBy (possible : writing.IsPossible render) (mode : Mode)
    (directory : Path) (schemas : List Schema) (tree : FileTree) {location : Location}
    (other : ¬IsOutput (generateBy writing mode directory schemas tree).files directory schemas
      location) :
    tree.KeepsFile (generateBy writing mode directory schemas tree).files location := by
  have run := generated writing mode directory schemas tree
  generalize generateBy writing mode directory schemas tree = done at run other ⊢
  cases run with
  | clash _ => exact .refl tree location
  | unmade _ made => exact FileTree.keepsFile_makeDirectory made location
  | @made files _ clear made finished =>
    have ended := possible.ended mode directory schemas files
    refine (FileTree.keepsFile_makeDirectory made location).trans ?_
    cases finished with
    | module failure => exact ended.keepsFile other
    | index failure written => exact ended.keepsFile other
    | all failure written =>
      obtain ⟨-, index, located, -, elsewhere, same⟩ := FileTree.written_at written
      refine (ended.keepsFile fun output => other (output.mono same)).trans (.of_node ?_)
      refine elsewhere location ?_
      rintro rfl
      exact other (.inl (same.locate_iff.mpr located))

/-- Every output is preserved or holds what a run puts there: a module what `render` yields, and the
index `indexBytes`. -/
structure Touches (render : Renderer) (tree : FileTree) (directory : Path) (schemas : List Schema)
    (after : FileTree) : Prop where
  modules : ∀ schema ∈ schemas,
    tree.KeepsFile after (tree.links.landing (entryOf (tree.location directory) schema)) ∨
    HoldsBytes tree (tree.location directory) after schema ((render schema).bytes schema)
  index : tree.KeepsFile after (tree.links.landing (tree.location directory ++ [indexName])) ∨
    ∃ changed, after.node? (tree.links.landing (tree.location directory ++ [indexName])) =
      some (.file (indexBytes schemas) changed)

theorem Touches.of_keeps {after : FileTree} (keeps : ∀ location, tree.KeepsFile after location) :
    Touches render tree directory schemas after :=
  ⟨fun _ _ => .inl (keeps _), .inl (keeps _)⟩

/-- Under `AreApart`, settled modules leave the location of the index unchanged. -/
theorem Settled.node?_index (apart : AreApart tree directory schemas)
    (made : FileTree.makeDirectory directory tree = (.ok (), files))
    (settled : Settled render files directory (tree.location directory) schemas mode progress) :
    progress.files.node? (tree.links.landing (tree.location directory ++ [indexName])) =
      files.node? (tree.links.landing (tree.location directory ++ [indexName])) := by
  apply settled.others
  intro schema member located
  have landed := FileTree.landing_of_locate (FileTree.stat_makeDirectory made)
    (isFileName_moduleFile schema) located
  rw [(FileTree.keeps_of_made made).links] at landed
  exact apart.index_ne member landed

theorem touches_generateBy (possible : writing.IsPossible render) (mode : Mode)
    (apart : AreApart tree directory schemas) :
    Touches render tree directory schemas
      (generateBy writing mode directory schemas tree).files := by
  have run := generated writing mode directory schemas tree
  generalize generateBy writing mode directory schemas tree = done at run ⊢
  cases run with
  | clash _ => exact .of_keeps fun location => .refl tree location
  | unmade _ made => exact .of_keeps (FileTree.keepsFile_makeDirectory made)
  | @made files _ clear made finished =>
    have settled := apart.settled possible mode clear made
    have keepsFile := FileTree.keepsFile_makeDirectory made
    have links : files.links = tree.links := (FileTree.keeps_of_made made).links
    have modules (schema : Schema) (member : schema ∈ schemas) :
        tree.KeepsFile (writing mode directory schemas files).files
          (tree.links.landing (entryOf (tree.location directory) schema)) ∨
        HoldsBytes tree (tree.location directory) (writing mode directory schemas files).files
          schema ((render schema).bytes schema) := by
      rcases settled.modules schema member with untouched | holds
      · refine .inl ((keepsFile _).trans (.of_node (untouched _ ?_)))
        rw [links]
        exact Links.landing_mem_way _
      · rw [HoldsBytes, links] at holds
        exact .inr holds
    have index := settled.node?_index apart made
    cases finished with
    | module failure => exact ⟨modules, .inl ((keepsFile _).trans (.of_node index))⟩
    | index failure written => exact ⟨modules, .inl ((keepsFile _).trans (.of_node index))⟩
    | all failure written =>
      obtain ⟨-, place, located, holds, elsewhere, -⟩ := FileTree.written_at written
      have landed := FileTree.landing_of_locate
        (settled.same.keeps.stat (FileTree.stat_makeDirectory made)) isFileName_indexName located
      rw [settled.same.keeps.links, links] at landed
      subst landed
      refine ⟨?_, .inr holds⟩
      intro schema member
      have same := elsewhere _ (apart.index_ne member).symm
      rcases modules schema member with keeps | ⟨changed, stands⟩
      · exact .inl (keeps.trans (.of_node same))
      · exact .inr ⟨changed, same.trans stands⟩

/-- Postcondition of a run that returns, with `AreApart` outputs: each module file has `moduleBytes`
of its own schema at a location of its own, and the index exports the modules in order. -/
structure Complete (directory : Path) (schemas : List Schema) (done : Generation) : Prop where
  modules : ∀ schema ∈ schemas, done.files.readBytes (directory.below (moduleFile schema)) =
    .ok (Text.Utf8.encode (schemaModule schema))
  index : ∃ index, done.files.readBytes (directory.below indexName) =
    .ok (Text.Utf8.encode index) ∧
    (exportsIn index).map (· ++ ".ts".toList) = schemas.map moduleFile

theorem written_generateBy (possible : writing.IsPossible render) {count : Nat}
    (returned : (generateBy writing mode directory schemas tree).result = .ok count) :
    count = schemas.length ∧ (schemas.map moduleFile).Nodup ∧
      (generateBy writing mode directory schemas tree).written.Perm schemas := by
  have run := generated writing mode directory schemas tree
  generalize generateBy writing mode directory schemas tree = done at run returned ⊢
  cases run with
  | clash _ => cases returned
  | unmade _ _ => cases returned
  | @made files _ clear made finished =>
    cases finished with
    | module _ => cases returned
    | index _ _ => cases returned
    | all failure _ =>
      cases returned
      exact ⟨rfl, clear_iff_nodup.mp clear, (possible.ended mode directory schemas files).all failure⟩

/-- Every written module belongs to the list of schemas, also in failing runs. -/
theorem listed_generateBy (possible : writing.IsPossible render) (mode : Mode) (directory : Path)
    (schemas : List Schema) (tree : FileTree) :
    ∀ schema ∈ (generateBy writing mode directory schemas tree).written, schema ∈ schemas := by
  have run := generated writing mode directory schemas tree
  generalize generateBy writing mode directory schemas tree = done at run ⊢
  cases run with
  | clash _ => exact List.forall_mem_nil _
  | unmade _ _ => exact List.forall_mem_nil _
  | @made files _ clear made finished =>
    have ended := possible.ended mode directory schemas files
    cases finished with
    | module _ => exact ended.listed
    | index _ _ => exact ended.listed
    | all _ _ => exact ended.listed

theorem complete_generateBy (possible : writing.IsPossible render)
    (apart : AreApart tree directory schemas) {count : Nat}
    (returned : (generateBy writing mode directory schemas tree).result = .ok count) :
    Complete directory schemas (generateBy writing mode directory schemas tree) := by
  have run := generated writing mode directory schemas tree
  generalize generateBy writing mode directory schemas tree = done at run returned ⊢
  cases run with
  | clash _ => cases returned
  | unmade _ _ => cases returned
  | @made files _ clear made finished =>
    have settled := apart.settled possible mode clear made
    have stat := FileTree.stat_makeDirectory made
    have links : files.links = tree.links := (FileTree.keeps_of_made made).links
    cases finished with
    | module _ => cases returned
    | index _ _ => cases returned
    | all failure written =>
      obtain ⟨noZero, place, located, ⟨changed, stands⟩, elsewhere, same⟩ :=
        FileTree.written_at written
      have standing := settled.same.keeps.stat stat
      refine ⟨?_, indexModule schemas, ?_, ?_⟩
      · intro schema member
        obtain ⟨⟨changed, stands⟩, alone⟩ := settled.complete failure schema member
        rw [entryOf] at stands
        obtain ⟨-, file, led⟩ := writeModule_ok alone
        have named := isFileName_moduleFile schema
        have landed := FileTree.landing_of_locate stat named led
        have landedToo := FileTree.landing_of_locate standing isFileName_indexName located
        have other : file ≠ place := by
          rw [landed, landedToo, settled.same.keeps.links, links]
          exact (apart.index_ne member).symm
        have all := settled.same.trans same
        rw [← landed, ← elsewhere file other] at stands
        exact FileTree.readBytes_of_locate (FileTree.hasZero_below stat named)
          (all.keeps.locate led) stands
      · exact FileTree.readBytes_of_locate noZero (same.keeps.locate located) stands
      · rw [exportsIn_indexModule, List.map_map]
        rfl

/-- A repeated module name ends the run before any file operation. -/
theorem generateBy_repeated (writing : Writing) (mode : Mode) (directory : Path) (tree : FileTree)
    (repeated : ¬(schemas.map moduleFile).Nodup) :
    ∃ before owner between schema later,
      schemas = before ++ owner :: (between ++ schema :: later) ∧
      ((before ++ owner :: between).map moduleFile).Nodup ∧
      moduleFile owner = moduleFile schema ∧
      generateBy writing mode directory schemas tree =
        ⟨tree, false, [],
          .error (.sameModule owner.name schema.name (Name.moduleName schema.name))⟩ := by
  obtain ⟨before, owner, between, schema, later, shape, distinct, same, clash⟩ :=
    clash_of_repeated repeated
  refine ⟨before, owner, between, schema, later, shape, distinct, same, ?_⟩
  unfold generateBy
  rw [clash]

/-- Frame and postcondition of `generateBy`, for every possible `Writing`. Locations that are no
`IsOutput` keep their files in every outcome. A run that returns has written every module once, and
is `Complete` under `AreApart`. The first repetition of a module name is reported with its owner,
and the tree is unchanged. -/
theorem generateBy_outputs (possible : writing.IsPossible render) (mode : Mode) (directory : Path)
    (schemas : List Schema) (tree : FileTree) :
    let done := generateBy writing mode directory schemas tree
    (∀ location, ¬IsOutput done.files directory schemas location →
      tree.KeepsFile done.files location) ∧
    (∀ count, done.result = .ok count → count = schemas.length ∧
      (schemas.map moduleFile).Nodup ∧ done.written.Perm schemas ∧
      (AreApart tree directory schemas → Complete directory schemas done)) ∧
    ∀ first second, [first, second].Sublist schemas →
      Name.moduleName first.name = Name.moduleName second.name →
      ∃ before owner between schema later,
        schemas = before ++ owner :: (between ++ schema :: later) ∧
        ((before ++ owner :: between).map moduleFile).Nodup ∧
        moduleFile owner = moduleFile schema ∧
        done.result = .error (.sameModule owner.name schema.name (Name.moduleName schema.name)) ∧
        done.files = tree := by
  intro done
  refine ⟨?_, ?_, ?_⟩
  · exact fun _ other => keepsFile_generateBy possible mode directory schemas tree other
  · intro count returned
    obtain ⟨number, distinct, written⟩ := written_generateBy possible returned
    exact ⟨number, distinct, written, fun apart => complete_generateBy possible apart returned⟩
  · intro first second both same
    have repeated : ¬(schemas.map moduleFile).Nodup := by
      intro distinct
      apply List.nodup_iff_sublist.mp distinct (moduleFile second)
      have pair := both.map moduleFile
      rwa [List.map_cons, moduleFile_inj.mpr same] at pair
    obtain ⟨before, owner, between, schema, later, shape, distinct, same, stopped⟩ :=
      generateBy_repeated writing mode directory tree repeated
    refine ⟨before, owner, between, schema, later, shape, distinct, same, ?_, ?_⟩
    · exact congrArg Generation.result stopped
    · exact congrArg Generation.files stopped

def plainSchema : Schema := { name := "a" }

/-- Its module file is not its name. -/
def slashSchema : Schema := { name := "b/c" }

def sampleSchemas : List Schema := [plainSchema, slashSchema]

def sampleDirectory : Path := ⟨true, ["gen"]⟩

theorem generateBy_outputs_sample : (writeModules renderFully).IsPossible renderFully ∧
    (generate .sequential sampleDirectory sampleSchemas { home := [] }).result = .ok 2 ∧
    AreApart { home := [] } sampleDirectory sampleSchemas ∧
    Complete sampleDirectory sampleSchemas
      (generate .sequential sampleDirectory sampleSchemas { home := [] }) := by
  have possible := isPossible_writeModules renderFully
  have returned :
      (generate .sequential sampleDirectory sampleSchemas { home := [] }).result = .ok 2 := rfl
  have apart : AreApart { home := [] } sampleDirectory sampleSchemas :=
    areApart_of_direct fun _ _ => rfl
  obtain ⟨-, outputs, -⟩ := generateBy_outputs possible .sequential sampleDirectory sampleSchemas
    { home := [] }
  exact ⟨possible, returned, apart, (outputs 2 returned).2.2.2 apart⟩

/-- Both module files are links to one file outside the output directory. -/
def linkedTree : FileTree where
  home := []
  nodes := [(["gen"], .directory), (["notes.txt"], .file [] .zero)]
  links := { entries := [(["gen", "types-a.ts"], ["notes.txt"]),
    (["gen", "types-b_c.ts"], ["notes.txt"])] }

/-- Without `AreApart` a run that returns need not be `Complete`: `linkedTree` leads both modules to
`notes.txt`, which is no file of the directory and ends with the module written last. -/
theorem generateBy_linked :
    let done := generate .sequential sampleDirectory sampleSchemas linkedTree
    done.result = .ok 2 ∧ ¬linkedTree.KeepsFile done.files ["notes.txt"] ∧
      done.files.readBytes (sampleDirectory.below (moduleFile plainSchema)) =
        .ok (moduleBytes slashSchema) ∧ moduleBytes plainSchema ≠ moduleBytes slashSchema := by
  intro done
  refine ⟨rfl, ?_, rfl, by decide +kernel⟩
  intro keeps
  have stands := (keeps [] .zero).mpr rfl
  revert stands
  decide +kernel

end TypedCatalog.Declaration
