import TypedCatalog.Catalog.Snapshot
import TypedCatalog.Proofs.Fault
import TypedCatalog.Proofs.File.Listing
import TypedCatalog.Proofs.Text.Order

/-! `Snapshot.collect` as an ordered union: `Collected` determines the list of files by membership
and by the order of first occurrence. -/
namespace TypedCatalog.Snapshot

variable {tree other : FileTree} {path file first second : Path} {location : Location} {node : Node}
  {name : Text} {paths files seen : List Path}

theorem distinct_eq_filter (seen paths : List Path) :
    distinct seen paths = (distinct [] paths).filter fun path => path ∉ seen := by
  induction paths generalizing seen with
  | nil => rfl
  | cons path paths ih =>
    have others : distinct [] (path :: paths) =
        path :: (distinct [] paths).filter fun other => other ∉ [path] := by
      rw [distinct, if_neg List.not_mem_nil, ih [path]]
    rw [others, distinct]
    split
    · rename_i again
      rw [List.filter_cons_of_neg (by simpa using again), List.filter_filter, ih seen]
      apply List.filter_congr
      intro other _
      by_cases same : other = path
      · simp [same, again]
      · simp [same]
    · rename_i new
      rw [List.filter_cons_of_pos (by simpa using new), List.filter_filter, ih (path :: seen)]
      congr 1
      apply List.filter_congr
      intro other _
      by_cases same : other = path
      · simp [same]
      · simp [same]

theorem distinct_cons (path : Path) (paths : List Path) :
    distinct [] (path :: paths) = path :: (distinct [] paths).filter fun other => other ≠ path := by
  rw [distinct, if_neg List.not_mem_nil, distinct_eq_filter [path]]
  simp only [List.mem_singleton, ne_eq]

@[simp]
theorem mem_distinct : file ∈ distinct [] paths ↔ file ∈ paths := by
  induction paths with
  | nil => rfl
  | cons path paths ih =>
    rw [distinct_cons, List.mem_cons, List.mem_cons, List.mem_filter, ih]
    by_cases same : file = path
    · simp [same]
    · simp [same]

theorem distinct_of_nodup (once : paths.Nodup) : distinct [] paths = paths := by
  induction paths with
  | nil => rfl
  | cons path paths ih =>
    obtain ⟨new, once⟩ := List.nodup_cons.mp once
    rw [distinct_cons, ih once, List.filter_eq_self.mpr]
    intro other member
    rw [decide_eq_true_eq]
    rintro rfl
    exact new member

/-- `distinct` of a concatenation drops from the second part what occurs in the first. -/
theorem distinct_append (first second : List Path) :
    distinct [] (first ++ second) =
      distinct [] first ++ (distinct [] second).filter fun path => path ∉ first := by
  induction first with
  | nil => simp [distinct]
  | cons path first ih =>
    rw [List.cons_append, distinct_cons, distinct_cons, ih, List.filter_append, List.filter_filter,
      List.cons_append]
    congr 2
    apply List.filter_congr
    intro other _
    simp [not_or]

/-- The resolved path has this location and node. -/
structure Leads (tree : FileTree) (path : Path) (location : Location) (node : Node) : Prop where
  full : tree.resolve path = .ok (.ofLocation location)
  stands : tree.stat (.ofLocation location) = .ok (location, node)

/-- The path leads to a file or a directory. -/
def Stands (tree : FileTree) (path : Path) : Prop := ∃ location node, Leads tree path location node

/-- The files of a path: the resolved path of a file, or the snapshot files directly in a
directory. -/
inductive Yields (tree : FileTree) (path : Path) : Path → Prop where
  | file {location : Location} {content : List UInt8} {changed : Binary64} :
    Leads tree path location (.file content changed) → Yields tree path (.ofLocation location)
  | inside {location : Location} {name : Text} {content : List UInt8} {changed : Binary64} :
    Leads tree path location .directory →
    Leads tree (.ofLocation (location ++ [name])) (location ++ [name]) (.file content changed) →
    (Path.ofLocation (location ++ [name])).suffix ∈ suffixes →
    Yields tree path (.ofLocation (location ++ [name]))

/-- The faults of a path that does not satisfy `Stands`. -/
inductive Refuses (path : Path) : Fault → Prop where
  | missing : path.hasZero = false → Refuses path (.noSource path.text)
  | nameTooLong {text : Text} : (∃ name ∈ path.names, FileTree.nameLimit < Text.Utf8.size name) →
    Refuses path (.file .nameTooLong text)
  | zeroByte : path.hasZero = true → Refuses path (.content .zeroByte)

theorem Leads.unique {place : Location} {held : Node} (leads : Leads tree path location node)
    (again : Leads tree path place held) : place = location ∧ held = node := by
  have same := leads.full.symm.trans again.full
  cases same
  have found := leads.stands.symm.trans again.stands
  cases found
  exact ⟨rfl, rfl⟩

/-- A path with a `stat` leads to its location and node. -/
theorem leads_of_stat (home : tree.HasHome) (stat : tree.stat path = .ok (location, node)) :
    Leads tree path location node := by
  obtain ⟨full, stands⟩ := home.resolve stat
  exact ⟨full, stands⟩

theorem Leads.again (home : tree.HasHome) (leads : Leads tree path location node) :
    Leads tree (.ofLocation location) location node := leads_of_stat home leads.stands

/-- Without `..`, `Stands` is the existence of a `stat`. -/
theorem stands_iff_stat (proper : tree.IsProper) (down : ['.', '.'] ∉ path.names) :
    Stands tree path ↔ ∃ location node, tree.stat path = .ok (location, node) := by
  constructor
  · rintro ⟨location, node, leads⟩
    have full := leads.full
    rw [FileTree.resolve] at full
    split at full
    · cases full
    · rename_i noZero
      cases full
      have zero : path.hasZero = false := Bool.not_eq_true _ ▸ noZero
      exact ⟨_, _, proper.plain.stat_down proper.home down zero leads.stands⟩
  · rintro ⟨location, node, stat⟩
    exact ⟨location, node, leads_of_stat proper.home stat⟩

theorem find_of_stat (stat : tree.stat path = .ok (location, node)) :
    tree.find path = .ok (some node) := by
  rw [FileTree.find, stat]

theorem filesAt_file {content : List UInt8} {changed : Binary64}
    (leads : Leads tree path location (.file content changed)) :
    filesAt tree path = .ok [.ofLocation location] := by
  rw [filesAt, leads.full, ok_bind, find_of_stat leads.stands, ok_bind]
  rfl

theorem filesAt_directory (leads : Leads tree path location .directory) :
    filesAt tree path = .ok (inDirectory tree location) := by
  rw [filesAt, leads.full, ok_bind, find_of_stat leads.stands, ok_bind]
  rfl

theorem mem_inDirectory (proper : tree.IsProper)
    (directory : tree.stat (.ofLocation location) = .ok (location, .directory)) :
    file ∈ inDirectory tree location ↔ ∃ name content changed,
      Leads tree (.ofLocation (location ++ [name])) (location ++ [name]) (.file content changed) ∧
      (Path.ofLocation (location ++ [name])).suffix ∈ suffixes ∧
      file = .ofLocation (location ++ [name]) := by
  have suffix (name : Text) : isSnapshotName name = true ↔
      (Path.ofLocation (location ++ [name])).suffix ∈ suffixes := by
    rw [isSnapshotName, List.contains_iff_mem, Path.suffix, Path.name, Path.ofLocation,
      List.getLastD_concat]
  have lands (place : Location) : tree.land place = .ok place :=
    FileTree.land_of_target? (Links.isClear_of_empty proper.plain place).target?
  simp only [inDirectory, List.mem_map, List.mem_mergeSort, List.mem_filter, Bool.and_eq_true,
    suffix]
  constructor
  · rintro ⟨name, ⟨-, snapshot, isFile⟩, rfl⟩
    rw [Snapshot.isFile, lands] at isFile
    dsimp only at isFile
    split at isFile
    · rename_i content changed stands
      have stat := proper.stat_below directory stands
      exact ⟨name, content, changed, leads_of_stat proper.home stat, snapshot, rfl⟩
    · cases isFile
  · rintro ⟨name, content, changed, leads, snapshot, rfl⟩
    have stands := (FileTree.stat_ok leads.stands).2.2
    have listed := proper.plain.mem_namesBelow.mpr ⟨_, FileTree.mem_nodes stands⟩
    refine ⟨name, ⟨listed, snapshot, ?_⟩, rfl⟩
    rw [Snapshot.isFile, lands]
    dsimp only
    rw [stands]

/-- The files of a directory are sorted by name. -/
theorem pairwise_inDirectory (proper : tree.IsProper) (location : Location) :
    (inDirectory tree location).Pairwise fun first second => first.name < second.name := by
  have once := (proper.nodup_namesBelow location).filter fun name =>
    isSnapshotName name && isFile tree (location ++ [name])
  have sorted := (Text.pairwise_mergeSort _).and
    ((List.mergeSort_perm _ Text.le).nodup_iff.mpr once)
  rw [inDirectory, List.pairwise_map]
  apply sorted.imp
  rintro first second ⟨below, different⟩
  simp only [Path.name, Path.ofLocation, List.getLastD_concat]
  exact Text.lt_of_le below different

/-- `filesAt` fails with `Refuses` if the path does not satisfy `Stands`. -/
theorem filesAt_refuses (proper : tree.IsProper) (astray : ¬Stands tree path) :
    ∃ fault, Refuses path fault ∧ filesAt tree path = .error fault := by
  cases zero : path.hasZero with
  | true =>
    refine ⟨_, .zeroByte zero, ?_⟩
    rw [filesAt, FileTree.resolve, zero]
    rfl
  | false =>
    have full : tree.resolve path = .ok (.ofLocation (tree.location path)) := by
      rw [FileTree.resolve, zero]
      rfl
    have failed : ∀ location node,
        tree.stat (.ofLocation (tree.location path)) ≠ .ok (location, node) := by
      intro location node stat
      cases proper.plain.stat_full proper.home stat
      exact astray ⟨_, node, full, stat⟩
    have finds := FileTree.find.eq_def tree (.ofLocation (tree.location path))
    split at finds
    · rename_i location node stat
      exact absurd stat (failed location node)
    · rename_i text long
      refine ⟨.file .nameTooLong text, .nameTooLong (proper.plain.long_of_stat proper.home long), ?_⟩
      rw [filesAt, full, ok_bind, finds]
      rfl
    · refine ⟨_, .missing zero, ?_⟩
      rw [filesAt, full, ok_bind, finds]
      rfl

/-- The files of a path, or none on failure. -/
def filesOf (tree : FileTree) (path : Path) : List Path :=
  (filesAt tree path).toOption.getD []

theorem filesOf_of_ok (run : filesAt tree path = .ok files) : filesOf tree path = files := by
  rw [filesOf, run]
  rfl

theorem filesAt_stands (stands : Stands tree path) :
    filesAt tree path = .ok (filesOf tree path) := by
  obtain ⟨location, node, leads⟩ := stands
  cases node with
  | file content changed => rw [filesOf_of_ok (filesAt_file leads), filesAt_file leads]
  | directory => rw [filesOf_of_ok (filesAt_directory leads), filesAt_directory leads]

theorem filesOf_astray (proper : tree.IsProper) (astray : ¬Stands tree path) :
    filesOf tree path = [] := by
  obtain ⟨fault, -, refused⟩ := filesAt_refuses proper astray
  rw [filesOf, refused]
  rfl

/-- `filesAt` by cases: a file, a directory, or a fault. -/
theorem filesOf_cases (proper : tree.IsProper) (path : Path) :
    (∃ location content changed, Leads tree path location (.file content changed) ∧
      filesOf tree path = [.ofLocation location]) ∨
    (∃ location, Leads tree path location .directory ∧
      filesOf tree path = inDirectory tree location) ∨
    ¬Stands tree path ∧ filesOf tree path = [] := by
  by_cases stands : Stands tree path
  · obtain ⟨location, node, leads⟩ := stands
    cases node with
    | file content changed =>
      exact .inl ⟨location, content, changed, leads, filesOf_of_ok (filesAt_file leads)⟩
    | directory => exact .inr (.inl ⟨location, leads, filesOf_of_ok (filesAt_directory leads)⟩)
  · exact .inr (.inr ⟨stands, filesOf_astray proper stands⟩)

theorem mem_filesOf (proper : tree.IsProper) :
    file ∈ filesOf tree path ↔ Yields tree path file := by
  rcases filesOf_cases proper path with
    ⟨location, content, changed, leads, files⟩ | ⟨location, leads, files⟩ | ⟨astray, files⟩
  · rw [files, List.mem_singleton]
    constructor
    · rintro rfl
      exact .file leads
    · intro yields
      cases yields with
      | file again => rw [(leads.unique again).1]
      | inside again _ _ => cases (leads.unique again).2
  · rw [files, mem_inDirectory proper leads.stands]
    constructor
    · rintro ⟨name, content, changed, held, snapshot, rfl⟩
      exact .inside leads held snapshot
    · intro yields
      cases yields with
      | file again => cases (leads.unique again).2
      | inside again held snapshot =>
        cases (leads.unique again).1
        exact ⟨_, _, _, held, snapshot, rfl⟩
  · rw [files]
    constructor
    · intro member
      cases member
    · intro yields
      cases yields with
      | file leads => exact absurd ⟨_, _, leads⟩ astray
      | inside leads _ _ => exact absurd ⟨_, _, leads⟩ astray

theorem pairwise_filesOf (proper : tree.IsProper) (path : Path) :
    (filesOf tree path).Pairwise fun first second => first.name < second.name := by
  rcases filesOf_cases proper path with
    ⟨location, content, changed, -, files⟩ | ⟨location, -, files⟩ | ⟨-, files⟩
  · rw [files]
    exact List.pairwise_singleton _ _
  · rw [files]
    exact pairwise_inDirectory proper location
  · rw [files]
    exact .nil

theorem nodup_filesOf (proper : tree.IsProper) (path : Path) : (filesOf tree path).Nodup := by
  apply (pairwise_filesOf proper path).imp
  rintro first second less rfl
  exact List.lt_irrefl _ less

/-- A yielded file yields itself. -/
theorem Yields.itself (home : tree.HasHome) (yields : Yields tree path file) :
    Stands tree file ∧ filesOf tree file = [file] := by
  cases yields with
  | file leads =>
    have again := leads.again home
    exact ⟨⟨_, _, again⟩, filesOf_of_ok (filesAt_file again)⟩
  | inside _ leads _ => exact ⟨⟨_, _, leads⟩, filesOf_of_ok (filesAt_file leads)⟩

/-- The order of first occurrence: by the first path that yields either file, and by name within one
path. -/
def Precedes (tree : FileTree) (paths : List Path) (first second : Path) : Prop :=
  ∃ before path after, paths = before ++ path :: after ∧ Yields tree path first ∧
    (∀ earlier ∈ before, ¬Yields tree earlier first ∧ ¬Yields tree earlier second) ∧
    (Yields tree path second → first.name < second.name)

/-- No duplicates, exactly the yielded files, and the order of `Precedes`. -/
structure Collected (tree : FileTree) (paths files : List Path) : Prop where
  once : files.Nodup
  members : ∀ file, file ∈ files ↔ ∃ path ∈ paths, Yields tree path file
  order : files.Pairwise (Precedes tree paths)

theorem Precedes.cons (precedes : Precedes tree paths first second)
    (one : ¬Yields tree path first) (two : ¬Yields tree path second) :
    Precedes tree (path :: paths) first second := by
  obtain ⟨before, place, after, rfl, yields, earlier, below⟩ := precedes
  refine ⟨path :: before, place, after, rfl, yields, ?_, below⟩
  exact List.forall_mem_cons.mpr ⟨⟨one, two⟩, earlier⟩

/-- `Collected` for one more path: its files first, then the others. -/
theorem Collected.cons (proper : tree.IsProper) (collected : Collected tree paths files) :
    Collected tree (path :: paths)
      (filesOf tree path ++ files.filter fun file => file ∉ filesOf tree path) := by
  have others {file} (member : file ∈ files.filter fun file => file ∉ filesOf tree path) :
      file ∈ files ∧ ¬Yields tree path file := by
    rw [List.mem_filter, decide_eq_true_eq, mem_filesOf proper] at member
    exact member
  constructor
  · refine List.nodup_append'.mpr ⟨nodup_filesOf proper path, collected.once.filter _, ?_⟩
    intro file member left
    exact (others left).2 ((mem_filesOf proper).mp member)
  · intro file
    rw [List.mem_append, List.mem_filter, decide_eq_true_eq, mem_filesOf proper,
      collected.members, List.exists_mem_cons_iff]
    tauto
  · refine List.pairwise_append.mpr ⟨?_, ?_, ?_⟩
    · apply (pairwise_filesOf proper path).imp_of_mem
      intro first second member _ below
      exact ⟨[], path, paths, rfl, (mem_filesOf proper).mp member, List.forall_mem_nil _,
        fun _ => below⟩
    · apply (collected.order.filter _).imp_of_mem
      intro first second one two precedes
      exact precedes.cons (others one).2 (others two).2
    · intro first member second left
      exact ⟨[], path, paths, rfl, (mem_filesOf proper).mp member, List.forall_mem_nil _,
        fun yields => absurd yields (others left).2⟩

/-- The files of all paths, in order of first occurrence. -/
def union (tree : FileTree) (paths : List Path) : List Path :=
  distinct [] (paths.flatMap (filesOf tree))

theorem union_append (xs ys : List Path) : union tree (xs ++ ys) =
    union tree xs ++ (union tree ys).filter fun file => file ∉ union tree xs := by
  simp only [union, List.flatMap_append, distinct_append, mem_distinct]

theorem union_cons (proper : tree.IsProper) (path : Path) (paths : List Path) :
    union tree (path :: paths) =
      filesOf tree path ++ (union tree paths).filter fun file => file ∉ filesOf tree path := by
  rw [union, List.flatMap_cons, distinct_append, distinct_of_nodup (nodup_filesOf proper path)]
  rfl

theorem collected_union (proper : tree.IsProper) (paths : List Path) :
    Collected tree paths (union tree paths) := by
  induction paths with
  | nil => exact ⟨.nil, by simp [union, distinct], .nil⟩
  | cons path paths ih =>
    rw [union_cons proper]
    exact ih.cons proper

theorem mapM_stands (all : ∀ path ∈ paths, Stands tree path) :
    paths.mapM (filesAt tree) = .ok (paths.map (filesOf tree)) := by
  rw [mapM_ok_iff, List.forall₂_map_right_iff, List.forall₂_same]
  exact fun path member => filesAt_stands (all path member)

theorem collect_stands (all : ∀ path ∈ paths, Stands tree path) :
    collect tree paths = .ok (union tree paths) := by
  rw [collect, mapM_stands all, ok_bind, ← List.flatMap_def]
  rfl

/-- `collect` fails with the fault of the first path that does not satisfy `Stands`. -/
theorem collect_refuses {before after : List Path} (proper : tree.IsProper)
    (all : ∀ earlier ∈ before, Stands tree earlier) (astray : ¬Stands tree path) :
    ∃ fault, Refuses path fault ∧ collect tree (before ++ path :: after) = .error fault := by
  obtain ⟨fault, refuses, refused⟩ := filesAt_refuses proper astray
  refine ⟨fault, refuses, ?_⟩
  rw [collect, List.mapM_append, mapM_stands all, ok_bind, List.mapM_cons, refused]
  rfl

theorem exists_first_astray (astray : ∃ path ∈ paths, ¬Stands tree path) :
    ∃ before path after, paths = before ++ path :: after ∧
      (∀ earlier ∈ before, Stands tree earlier) ∧ ¬Stands tree path := by
  induction paths with
  | nil =>
    obtain ⟨path, member, -⟩ := astray
    cases member
  | cons first paths ih =>
    by_cases stands : Stands tree first
    · obtain ⟨path, member, lost⟩ := astray
      rcases List.mem_cons.mp member with rfl | member
      · exact absurd stands lost
      · obtain ⟨before, path, after, rfl, all, lost⟩ := ih ⟨path, member, lost⟩
        exact ⟨first :: before, path, after, rfl, List.forall_mem_cons.mpr ⟨stands, all⟩, lost⟩
    · exact ⟨[], first, paths, rfl, List.forall_mem_nil _, stands⟩

/-- `collect` is idempotent on its result. -/
theorem collect_union (proper : tree.IsProper) (paths : List Path) :
    collect tree (union tree paths) = .ok (union tree paths) := by
  have itself : ∀ file ∈ union tree paths, Stands tree file ∧ filesOf tree file = [file] := by
    intro file member
    obtain ⟨path, -, yields⟩ := ((collected_union proper paths).members file).mp member
    exact yields.itself proper.home
  have same : (union tree paths).flatMap (filesOf tree) = union tree paths := by
    rw [List.flatMap_congr fun file member => (itself file member).2, List.flatMap_singleton']
  rw [collect_stands fun file member => (itself file member).1]
  conv_lhs => rw [union, same, distinct_of_nodup (collected_union proper paths).once]

theorem filesAt_congr (proper : tree.IsProper) (same : tree.SameEntries other) (path : Path) :
    filesAt other path = filesAt tree path := by
  have isFile (location : Location) : isFile other location = isFile tree location := by
    simp only [isFile, same.land proper.once, same.node? proper.once]
  have inDirectory (location : Location) : inDirectory other location =
      inDirectory tree location := by
    simp only [inDirectory, isFile]
    rw [Text.mergeSort_perm ((same.namesBelow location).filter _)]
  simp only [filesAt, FileTree.resolve, FileTree.location, FileTree.start, FileTree.find,
    same.home, same.links, same.stat proper.once, inDirectory]

theorem collect_congr (proper : tree.IsProper) (same : tree.SameEntries other)
    (paths : List Path) : collect other paths = collect tree paths := by
  rw [collect, collect, funext (filesAt_congr proper same)]

/-- `collect` yields the list that is `Collected`, if all paths satisfy `Stands`: on a concatenation
the first list and what the second adds, and on its own result that result. It does not depend on
the order of entries. It fails if and only if some path does not satisfy `Stands`, with the fault of
the first. A path with a `stat` satisfies `Leads`; the converse holds without `..`. -/
theorem collect_unites (proper : tree.IsProper) (xs ys : List Path) :
    ((∀ path ∈ xs ++ ys, Stands tree path) → ∃ ps qs,
      collect tree xs = .ok ps ∧ collect tree ys = .ok qs ∧ Collected tree xs ps ∧
      collect tree (xs ++ ys) = .ok (ps ++ qs.filter fun file => file ∉ ps) ∧
      collect tree ps = .ok ps) ∧
    (∀ other, tree.SameEntries other → collect other xs = collect tree xs) ∧
    ((∃ path ∈ xs, ¬Stands tree path) → ∃ before path after fault,
      xs = before ++ path :: after ∧ (∀ earlier ∈ before, Stands tree earlier) ∧
      ¬Stands tree path ∧ Refuses path fault ∧ collect tree xs = .error fault) ∧
    (∀ path location node, tree.stat path = .ok (location, node) →
      Leads tree path location node) ∧
    ∀ path, ['.', '.'] ∉ path.names → Stands tree path →
      ∃ location node, tree.stat path = .ok (location, node) := by
  refine ⟨fun all => ?_, fun other same => collect_congr proper same xs, fun astray => ?_,
    fun path location node => leads_of_stat proper.home,
    fun path down => (stands_iff_stat proper down).mp⟩
  · obtain ⟨first, second⟩ := List.forall_mem_append.mp all
    refine ⟨union tree xs, union tree ys, collect_stands first, collect_stands second,
      collected_union proper xs, ?_, collect_union proper xs⟩
    rw [collect_stands all, union_append]
  · obtain ⟨before, path, after, rfl, all, lost⟩ := exists_first_astray astray
    obtain ⟨fault, refuses, refused⟩ := collect_refuses proper all lost
    exact ⟨before, path, after, fault, rfl, all, lost, refuses, refused⟩

/-- A file beside a directory with two snapshots. -/
def shelf : FileTree where
  home := []
  nodes := [(["d"], .directory), (["d", "b.json"], .file [] .zero),
    (["d", "notes"], .file [] .zero), (["d", "A.YAML"], .file [] .zero),
    (["b.json"], .file [] .zero)]

theorem isProper_shelf : shelf.IsProper := by
  have named : (shelf.nodes.all fun entry => entry.1.all fun name => name ≠ ['.', '.'] &&
      (name.all fun c => c.toNat ≠ 0) && Text.Utf8.size name ≤ FileTree.nameLimit) = true := rfl
  simp only [List.all_eq_true, Bool.and_eq_true, decide_eq_true_eq] at named
  constructor
  · rfl
  · rfl
  · decide
  · intro entry member name inside
    obtain ⟨⟨down, zeros⟩, short⟩ := named entry member name inside
    exact ⟨⟨down, zeros⟩, short⟩

theorem inDirectory_shelf :
    inDirectory shelf ["d"] = [.ofText "/d/A.YAML", .ofText "/d/b.json"] := by
  let sorted : List Text := ["A.YAML", "b.json"]
  have perm : ((shelf.namesBelow ["d"]).filter fun name =>
      isSnapshotName name && isFile shelf (["d".toList] ++ [name])).Perm sorted := .swap _ _ _
  have kept : sorted.mergeSort Text.le = sorted := List.mergeSort_of_pairwise (by decide)
  rw [inDirectory, Text.mergeSort_perm perm, kept]
  rfl

theorem collect_unites_shelf : shelf.IsProper ∧
    collect shelf [.ofText "d", .ofText "d/b.json"] =
      .ok [.ofText "/d/A.YAML", .ofText "/d/b.json"] ∧
    Collected shelf [.ofText "d", .ofText "d/b.json"]
      [.ofText "/d/A.YAML", .ofText "/d/b.json"] := by
  obtain ⟨united, -, -, found, -⟩ := collect_unites isProper_shelf
    [.ofText "d", .ofText "d/b.json"] []
  have directory := found (.ofText "d") ["d"] .directory rfl
  have file := found (.ofText "d/b.json") ["d", "b.json"] (.file [] .zero) rfl
  have stands : ∀ path ∈ [Path.ofText "d", Path.ofText "d/b.json"] ++ [], Stands shelf path := by
    simp only [List.append_nil, List.forall_mem_cons]
    exact ⟨⟨_, _, directory⟩, ⟨_, _, file⟩, List.forall_mem_nil _⟩
  obtain ⟨files, _, run, -, collected, -⟩ := united stands
  have listed : collect shelf [.ofText "d", .ofText "d/b.json"] =
      .ok [.ofText "/d/A.YAML", .ofText "/d/b.json"] := by
    rw [collect, List.mapM_cons, List.mapM_cons, filesAt_directory directory, inDirectory_shelf,
      filesAt_file file]
    rfl
  cases run.symm.trans listed
  exact ⟨isProper_shelf, run, collected⟩

/-- `..` is resolved before the existence test, and a zero character raises no file fault. -/
theorem astray_collected :
    shelf.IsProper ∧
    shelf.stat (.ofText "missing/../b.json") = .error (.file .missing "missing/../b.json") ∧
    collect shelf [.ofText "missing/../b.json"] = .ok [.ofText "/b.json"] ∧
    shelf.find (.ofText "a\x00b") = .ok none ∧
    collect shelf [.ofText "a\x00b"] = .error (.content .zeroByte) :=
  ⟨isProper_shelf, rfl, rfl, rfl, rfl⟩

end TypedCatalog.Snapshot
