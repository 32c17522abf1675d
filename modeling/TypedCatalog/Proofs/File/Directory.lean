import TypedCatalog.Proofs.Fault
import TypedCatalog.Proofs.File.Change

/-! Files in one directory: where `openFile` and `writeBytes` put them, which other locations they
preserve, and `SameBytes`, equality of trees up to modification times. -/
namespace TypedCatalog

/-- The content of a file; directories have none. -/
def Node.bytes? : Node → Option (List UInt8)
  | .file content _ => some content
  | .directory => none

namespace FileTree

variable {tree middle after other : FileTree} {path : Path} {here location : Location} {name : Text}
  {content : List UInt8}

/-- Equal homes, links, directories and file contents. -/
structure SameBytes (tree other : FileTree) : Prop where
  home : tree.home = other.home
  links : tree.links = other.links
  nodes : ∀ location, (tree.node? location).map Node.bytes? = (other.node? location).map Node.bytes?

/-- The location holds the same file before and after, or none in both. -/
def KeepsFile (tree after : FileTree) (location : Location) : Prop :=
  ∀ content changed, after.node? location = some (.file content changed) ↔
    tree.node? location = some (.file content changed)

namespace KeepsFile

theorem refl (tree : FileTree) (location : Location) : tree.KeepsFile tree location :=
  fun _ _ => Iff.rfl

theorem trans (first : tree.KeepsFile middle location) (second : middle.KeepsFile after location) :
    tree.KeepsFile after location :=
  fun content changed => (second content changed).trans (first content changed)

theorem of_node (same : after.node? location = tree.node? location) :
    tree.KeepsFile after location := by
  intro content changed
  rw [same]

end KeepsFile

theorem keepsFile_createDirectory (created : tree.createDirectory path = .ok after)
    (location : Location) : tree.KeepsFile after location := by
  obtain ⟨place, -, -, free, rfl⟩ := createDirectory_ok created
  by_cases same : place = location
  · subst same
    have inside : place ≠ [] := by
      rintro rfl
      cases free
    intro content changed
    rw [node?_put inside, free]
    constructor
    · intro directory
      cases directory
    · intro file
      cases file
  · exact .of_node (node?_put_ne same)

/-- `makeDirectory` preserves all files, also on failure. -/
theorem keepsFile_makeDirectory {result : Except Fault Unit}
    (made : makeDirectory path tree = (result, after)) (location : Location) :
    tree.KeepsFile after location := by
  have keeps : tree.KeepsFile (makeDirectory path tree).2 location :=
    makeDirectories_keeps (fun tree after => tree.KeepsFile after location)
      (fun _ => .refl _ _) .trans (fun created => keepsFile_createDirectory created location) _
      path tree
  rwa [made] at keeps

theorem find_ok {node : Node} (found : tree.find path = .ok (some node)) :
    ∃ location, tree.stat path = .ok (location, node) := by
  unfold find at found
  split at found
  · rename_i location held stat
    cases found
    exact ⟨location, stat⟩
  · cases found
  · cases found

theorem stat_ensureDirectory (ensured : tree.ensureDirectory path = .ok after) :
    ∃ location, after.stat path = .ok (location, .directory) := by
  rcases ensureDirectory_ok ensured with ⟨found, rfl⟩ | created
  · exact find_ok found
  · have keeps := keeps_createDirectory created
    obtain ⟨location, noZero, located, free, rfl⟩ := createDirectory_ok created
    have inside : location ≠ [] := by
      rintro rfl
      cases free
    refine ⟨location, ?_⟩
    unfold stat
    rw [noZero, keeps.locate located]
    simp only [Bool.false_eq_true, if_false, node?_put inside]

theorem stat_makeDirectories (depth : Nat) {path : Path} {tree after : FileTree}
    (made : makeDirectories depth path tree = (.ok (), after)) :
    ∃ location, after.stat path = .ok (location, .directory) := by
  cases depth with
  | zero =>
    unfold makeDirectories at made
    split at made
    · rename_i ensured
      cases made
      exact stat_ensureDirectory ensured
    · cases made
  | succ depth =>
    unfold makeDirectories at made
    split at made
    · rename_i ensured
      cases made
      exact stat_ensureDirectory ensured
    · split at made
      · cases made
      · split at made
        · cases made
        · split at made
          · rename_i ensured
            cases made
            exact stat_ensureDirectory ensured
          · cases made
    · cases made

/-- A path with a `stat` has its link-resolved `location`. -/
theorem location_of_stat {node : Node} (stat : tree.stat path = .ok (location, node)) :
    location = tree.location path := walk_follow (stat_ok stat).2.1

/-- The created directory is at the `location` of its path. -/
theorem stat_makeDirectory (made : makeDirectory path tree = (.ok (), after)) :
    after.stat path = .ok (tree.location path, .directory) := by
  obtain ⟨location, stat⟩ := stat_makeDirectories _ made
  rw [stat, location_of_stat stat, (keeps_of_made made).location_eq]

theorem KeepsDirectories.stat (keeps : tree.KeepsDirectories after)
    (stat : tree.stat path = .ok (here, .directory)) :
    after.stat path = .ok (here, .directory) := by
  obtain ⟨noZero, located, stands⟩ := stat_ok stat
  unfold FileTree.stat
  rw [noZero, keeps.locate located]
  simp only [Bool.false_eq_true, if_false, keeps.directories _ stands]

/-- Whether the node at a location is a file; `none` if there is no node. -/
def isFile? (tree : FileTree) (location : Location) : Option Bool :=
  (tree.node? location).map fun node => node.bytes?.isSome

theorem isFile?_congr (same : other.node? location = tree.node? location) :
    other.isFile? location = tree.isFile? location := by
  rw [isFile?, isFile?, same]

theorem directory_iff :
    tree.node? location = some .directory ↔ tree.isFile? location = some false := by
  unfold isFile?
  cases tree.node? location with
  | none => simp
  | some node => cases node <;> simp [Node.bytes?]

theorem missing_iff : tree.node? location = none ↔ tree.isFile? location = none :=
  Option.map_eq_none_iff.symm

/-- `walkDirectly` depends only on which locations are directories. -/
theorem walkDirectly_congr {names : List Text}
    (kinds : ∀ place ∈ Path.passed here names, other.isFile? place = tree.isFile? place) :
    other.walkDirectly here names = tree.walkDirectly here names := by
  induction names generalizing here with
  | nil => rfl
  | cons name names ih =>
    obtain ⟨kind, kinds⟩ := List.forall_mem_cons.mp kinds
    have next := ih kinds
    rw [walkDirectly, walkDirectly, walkBy, walkBy]
    cases stands : tree.node? here with
    | none => rw [missing_iff.mpr (kind.trans (missing_iff.mp stands))]
    | some node =>
      cases node with
      | directory =>
        rw [directory_iff.mpr (kind.trans (directory_iff.mp stands))]
        dsimp only
        split
        · rename_i up
          rwa [if_pos up] at next
        · rename_i down
          rw [if_neg down] at next
          split
          · rfl
          · exact next
      | file content changed =>
        have kind : other.isFile? here = some true := by rw [kind, isFile?, stands]; rfl
        cases held : other.node? here with
        | none =>
          rw [missing_iff.mp held] at kind
          cases kind
        | some node =>
          cases node with
          | directory =>
            rw [directory_iff.mp held] at kind
            cases kind
          | file _ _ => rfl

theorem land_congr (links : other.links = tree.links)
    (kinds : ∀ place ∈ tree.links.way location, other.isFile? place = tree.isFile? place) :
    other.land location = tree.land location := by
  unfold land
  rw [links]
  cases found : tree.links.target? location with
  | none => rfl
  | some names =>
    rw [Links.way, found] at kinds
    exact walkDirectly_congr kinds

/-- A name that stays in the directory and has no zero character. -/
structure IsFileName (name : Text) : Prop where
  down : name ≠ ['.', '.']
  noZero : ∀ c ∈ name, c.toNat ≠ 0

theorem locate_below (stat : tree.stat path = .ok (here, .directory)) (named : IsFileName name) :
    tree.locate (path.below name) =
      if nameLimit < Text.Utf8.size name then .error .nameTooLong
      else tree.land (here ++ [name]) := by
  obtain ⟨-, located, stands⟩ := stat_ok stat
  have walked : tree.walkBy tree.land (tree.start path) path.names = .ok here := located
  change tree.walkBy tree.land (tree.start path) (path.names ++ [name]) = _
  rw [walkBy_append, walked]
  simp only [Except.bind, walkBy, stands, if_neg named.down]
  split
  · rfl
  · cases tree.land (here ++ [name]) with
    | error problem => rfl
    | ok place => rfl

/-- A file name below a directory leads to the landing of its location. -/
theorem landing_of_locate (stat : tree.stat path = .ok (here, .directory))
    (named : IsFileName name) (located : tree.locate (path.below name) = .ok location) :
    location = tree.links.landing (here ++ [name]) := by
  rw [locate_below stat named] at located
  split at located
  · cases located
  · exact land_ok located

theorem hasZero_below (stat : tree.stat path = .ok (here, .directory)) (named : IsFileName name) :
    (path.below name).hasZero = false := by
  have before := (stat_ok stat).1
  unfold Path.hasZero at before ⊢
  rw [Path.below, List.any_append, before]
  simpa using named.noZero

/-- `openFile` depends only on the kinds of the nodes on the `Links.way` of the file. -/
theorem openFile_congr (stat : tree.stat path = .ok (here, .directory))
    (second : other.stat path = .ok (here, .directory)) (named : IsFileName name)
    (links : other.links = tree.links) (kinds : ∀ place ∈ tree.links.way (here ++ [name]),
      other.isFile? place = tree.isFile? place) :
    (other.openFile (path.below name)).map (·.1) = (tree.openFile (path.below name)).map (·.1) := by
  have located : other.locate (path.below name) = tree.locate (path.below name) := by
    rw [locate_below stat named, locate_below second named, land_congr links kinds]
  unfold openFile
  rw [hasZero_below stat named, located]
  cases found : tree.locate (path.below name) with
  | error problem => rfl
  | ok place =>
    have landed := landing_of_locate stat named found
    have kind := kinds place (landed ▸ Links.landing_mem_way _)
    simp only [Bool.false_eq_true, if_false]
    by_cases directory : tree.node? place = some .directory
    · rw [directory, directory_iff.mpr (kind.trans (directory_iff.mp directory))]
    · have free : other.node? place ≠ some .directory :=
        fun stands => directory (directory_iff.mpr (kind.symm.trans (directory_iff.mp stands)))
      split
      · exact absurd ‹_› free
      · simp only [Except.map]

/-- `openFile` below a directory opens the landing of the location. -/
theorem opened_below (stat : tree.stat path = .ok (here, .directory)) (named : IsFileName name)
    (opened : tree.openFile (path.below name) = .ok (location, after)) :
    location = tree.links.landing (here ++ [name]) ∧ tree.node? location ≠ some .directory ∧
      after = tree.put location (.file [] tree.now) := by
  obtain ⟨-, located, free, after⟩ := openFile_ok opened
  exact ⟨landing_of_locate stat named located, free, after⟩

/-- Equal homes, links and directories. -/
structure SameDirectories (tree after : FileTree) : Prop where
  keeps : tree.KeepsDirectories after
  back : after.KeepsDirectories tree

namespace SameDirectories

theorem refl (tree : FileTree) : tree.SameDirectories tree := ⟨.refl tree, .refl tree⟩

theorem trans (first : tree.SameDirectories middle) (second : middle.SameDirectories after) :
    tree.SameDirectories after :=
  ⟨first.keeps.trans second.keeps, second.back.trans first.back⟩

theorem put_file {content : List UInt8} {changed : Binary64}
    (free : tree.node? location ≠ some .directory) :
    tree.SameDirectories (tree.put location (.file content changed)) := by
  refine ⟨.put fun stands => absurd stands free, rfl, rfl, ?_⟩
  intro place stands
  by_cases same : location = place
  · subst same
    rw [node?_put (ne_nil_of_node? free)] at stands
    cases stands
  · rwa [node?_put_ne same] at stands

theorem fill (free : tree.node? location ≠ some .directory) :
    tree.SameDirectories (tree.fill location content) := by
  have same : tree.SameDirectories (tree.put location
      (.file (content ++ tree.behind location content.length) tree.now)) := put_file free
  exact ⟨⟨same.keeps.home, same.keeps.links, same.keeps.directories⟩,
    same.back.home, same.back.links, same.back.directories⟩

/-- `locate` is invariant under `SameDirectories`. -/
theorem locate_iff (same : tree.SameDirectories after) :
    after.locate path = .ok location ↔ tree.locate path = .ok location :=
  ⟨same.back.locate, same.keeps.locate⟩

end SameDirectories

/-- `fill` after opening stores exactly the content. -/
theorem node?_fill {changed : Binary64} (inside : location ≠ [])
    (empty : tree.node? location = some (.file [] changed)) :
    (tree.fill location content).node? location = some (.file content tree.now) := by
  have nothing : tree.behind location content.length = [] := by
    simp only [behind, empty, List.drop_nil]
  have held : (tree.put location (.file content tree.now)).node? location = _ := node?_put inside
  rw [fill, nothing, List.append_nil]
  exact held

theorem node?_fill_ne {place : Location} (different : location ≠ place) :
    (tree.fill location content).node? place = tree.node? place := node?_put_ne different

theorem writeBytes_eq : tree.writeBytes path content =
    (tree.openFile path).map fun opened => opened.2.fill opened.1 content := by
  unfold writeBytes
  cases tree.openFile path with
  | error fault => rfl
  | ok opened => rfl

/-- `writeBytes` changes the node at the located place only. -/
theorem written_at (written : tree.writeBytes path content = .ok after) :
    path.hasZero = false ∧ ∃ location, tree.locate path = .ok location ∧
      (∃ changed, after.node? location = some (.file content changed)) ∧
      (∀ other, other ≠ location → after.node? other = tree.node? other) ∧
      tree.SameDirectories after := by
  rw [writeBytes_eq] at written
  obtain ⟨⟨location, emptied⟩, opened, rfl⟩ := map_ok written
  obtain ⟨noZero, located, free, rfl⟩ := openFile_ok opened
  have inside := ne_nil_of_node? free
  refine ⟨noZero, location, located, ⟨_, node?_fill inside (node?_put inside)⟩, ?_, ?_⟩
  · intro place other
    rw [node?_fill_ne (Ne.symm other), node?_put_ne (Ne.symm other)]
  · refine (SameDirectories.put_file free).trans (.fill ?_)
    rw [node?_put inside]
    exact fun same => nomatch same

/-- `readBytes` returns the content of the located file. -/
theorem readBytes_of_locate {changed : Binary64} (noZero : path.hasZero = false)
    (located : tree.locate path = .ok location)
    (stands : tree.node? location = some (.file content changed)) :
    tree.readBytes path = .ok content := by
  simp only [readBytes, FileTree.stat, noZero, located, stands, Bool.false_eq_true, if_false]

namespace SameBytes

theorem isFile? (bytes : tree.SameBytes other) (location : Location) :
    other.isFile? location = tree.isFile? location := by
  have same := congrArg (Option.map Option.isSome) (bytes.nodes location)
  rw [Option.map_map, Option.map_map] at same
  exact same.symm

/-- `SameBytes` is preserved by opening and filling the same location. -/
theorem refilled (bytes : tree.SameBytes other) {first second : Binary64} (inside : location ≠ []) :
    ((tree.put location (.file [] first)).fill location content).SameBytes
      ((other.put location (.file [] second)).fill location content) := by
  refine ⟨bytes.home, bytes.links, ?_⟩
  intro place
  by_cases same : location = place
  · subst same
    rw [node?_fill inside (node?_put inside), node?_fill inside (node?_put inside)]
    simp only [Option.map_some, Node.bytes?]
  · rw [node?_fill_ne same, node?_fill_ne same, node?_put_ne same, node?_put_ne same]
    exact bytes.nodes place

/-- `writeBytes` on trees with `SameBytes` fails with one fault, or succeeds with `SameBytes`. -/
theorem written (bytes : tree.SameBytes other) (stat : tree.stat path = .ok (here, .directory))
    (second : other.stat path = .ok (here, .directory)) (named : IsFileName name)
    (content : List UInt8) :
    (∃ fault, tree.writeBytes (path.below name) content = .error fault ∧
      other.writeBytes (path.below name) content = .error fault) ∨
    ∃ after last, tree.writeBytes (path.below name) content = .ok after ∧
      other.writeBytes (path.below name) content = .ok last ∧ after.SameBytes last := by
  have same := openFile_congr stat second named bytes.links.symm fun _ _ => bytes.isFile? _
  rw [writeBytes_eq, writeBytes_eq]
  cases opened : tree.openFile (path.below name) with
  | error fault =>
    rw [opened] at same
    rw [map_error same]
    exact .inl ⟨fault, rfl, rfl⟩
  | ok first =>
    obtain ⟨place, emptied⟩ := first
    rw [opened] at same
    obtain ⟨⟨placeToo, emptiedToo⟩, again, samePlace⟩ := map_ok same
    obtain rfl : placeToo = place := samePlace
    obtain ⟨-, free, rfl⟩ := opened_below stat named opened
    obtain ⟨-, -, rfl⟩ := opened_below second named again
    rw [again]
    exact .inr ⟨_, _, rfl, rfl, bytes.refilled (ne_nil_of_node? free)⟩

end SameBytes

end FileTree
end TypedCatalog
