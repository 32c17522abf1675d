import Mathlib.Data.List.Induction
import Mathlib.Data.List.Nodup
import TypedCatalog.Proofs.File.Directory

/-! `IsProper` file trees: unique entries, valid entry names and no links. For these `namesBelow`
lists each entry of a directory once, and results do not depend on the order of `nodes`. -/
namespace TypedCatalog

namespace Path

variable {here : Location} {names : List Text}

/-- Names without `..` are appended to the location. -/
theorem follow_down (down : ∀ name ∈ names, name ≠ ['.', '.']) :
    follow here names = here ++ names := by
  induction names generalizing here with
  | nil => rw [follow, List.append_nil]
  | cons name names ih =>
    obtain ⟨first, rest⟩ := List.forall_mem_cons.mp down
    rw [follow, if_neg first, ih rest, List.append_assoc, List.singleton_append]

/-- `follow` yields a location without `..`. -/
theorem down_follow (down : ∀ name ∈ here, name ≠ ['.', '.']) :
    ∀ name ∈ follow here names, name ≠ ['.', '.'] := by
  induction names generalizing here with
  | nil => exact down
  | cons name names ih =>
    rw [follow]
    split
    · exact ih fun name member => down name (List.dropLast_subset here member)
    · rename_i first
      apply ih
      intro name member
      rcases List.mem_append.mp member with inside | last
      · exact down name inside
      · rwa [List.mem_singleton.mp last]

end Path

namespace FileTree

variable {tree other : FileTree} {path : Path} {here location : Location} {node : Node}
  {name : Text} {names : List Text}

/-- Reached locations have names without `..` within the length limit. -/
theorem Reaches.named (reaches : tree.Reaches location) :
    ∀ name ∈ location, name ≠ ['.', '.'] ∧ Text.Utf8.size name ≤ nameLimit := by
  induction location using List.reverseRecOn with
  | nil => exact List.forall_mem_nil _
  | append_singleton above last ih =>
    intro name member
    rcases List.mem_append.mp member with inside | same
    · exact ih reaches.above name inside
    · rw [List.mem_singleton.mp same]
      exact reaches.last.2

/-- `nameTooLong` is raised for an overlong name of the walk only. -/
theorem walkDirectly_tooLong (stopped : tree.walkDirectly here names = .error .nameTooLong) :
    ∃ name ∈ names, nameLimit < Text.Utf8.size name := by
  induction names generalizing here with
  | nil => cases stopped
  | cons first names ih =>
    rw [walkDirectly, walkBy] at stopped
    split at stopped
    · cases stopped
    · cases stopped
    · split at stopped
      · obtain ⟨name, member, long⟩ := ih stopped
        exact ⟨name, List.mem_cons_of_mem _ member, long⟩
      · split at stopped
        · rename_i long
          exact ⟨first, List.mem_cons_self, long⟩
        · obtain ⟨name, member, long⟩ := ih stopped
          exact ⟨name, List.mem_cons_of_mem _ member, long⟩

/-- The tree has no links. -/
def IsPlain (tree : FileTree) : Prop := tree.links.entries = []

namespace IsPlain

theorem walk (plain : tree.IsPlain) : tree.walk = tree.walkDirectly := by
  have direct : tree.land = .ok := by
    funext location
    exact land_of_target? (Links.isClear_of_empty plain location).target?
  rw [FileTree.walk, direct]
  rfl

theorem location_eq (plain : tree.IsPlain) (path : Path) :
    tree.location path = Path.follow (tree.start path) path.names :=
  Links.follow_of_empty plain _ _

variable (plain : tree.IsPlain) (home : tree.HasHome)
include plain home

/-- `location` of the path of a location is that location. -/
theorem location_location (path : Path) :
    tree.location (.ofLocation (tree.location path)) = tree.location path := by
  have down : ∀ name ∈ tree.location path, name ≠ ['.', '.'] := by
    rw [plain.location_eq]
    exact Path.down_follow fun name member =>
      ((home.reaches_start path).1.named name member).1
  rw [plain.location_eq (.ofLocation _)]
  exact Path.follow_down down

/-- `stat` of the full path returns the `location` of the path. -/
theorem stat_full (stat : tree.stat (.ofLocation (tree.location path)) = .ok (location, node)) :
    location = tree.location path :=
  (location_of_stat stat).trans (plain.location_location home path)

/-- `stat` of a full path raises `nameTooLong` only if the path has an overlong name. -/
theorem long_of_stat {text : Text}
    (stopped : tree.stat (.ofLocation (tree.location path)) = .error (.file .nameTooLong text)) :
    ∃ name ∈ path.names, nameLimit < Text.Utf8.size name := by
  have walked : tree.walk [] (tree.location path) = .error .nameTooLong := by
    rw [FileTree.stat] at stopped
    split at stopped
    · cases stopped
    · split at stopped
      · rename_i located
        cases stopped
        exact located
      · split at stopped
        · cases stopped
        · cases stopped
  rw [plain.walk] at walked
  obtain ⟨name, member, long⟩ := walkDirectly_tooLong walked
  rw [plain.location_eq] at member
  rcases Path.mem_follow member with inside | inside
  · have short := ((home.reaches_start path).1.named name inside).2
    exact absurd long (Nat.not_lt.mpr short)
  · exact ⟨name, inside, long⟩

/-- A path without `..` has a `stat` if its full path has. -/
theorem stat_down (down : ['.', '.'] ∉ path.names) (noZero : path.hasZero = false)
    (stat : tree.stat (.ofLocation (tree.location path)) = .ok (location, node)) :
    tree.stat path = .ok (location, node) := by
  obtain ⟨-, located, stands⟩ := stat_ok stat
  have full : tree.location path = tree.start path ++ path.names := by
    rw [plain.location_eq, Path.follow_down]
    rintro name member rfl
    exact down member
  have walked : tree.walkBy tree.land [] (tree.location path) = .ok location := located
  have reached : tree.walkBy tree.land [] (tree.start path) = .ok (tree.start path) :=
    (home.reaches_start path).1.led
  rw [full, walkBy_append, reached] at walked
  have again : tree.locate path = .ok location := walked
  rw [FileTree.stat, noZero, again]
  simp only [Bool.false_eq_true, if_false, stands]

end IsPlain

/-- A name that an entry of a directory can have. -/
structure IsEntryName (name : Text) : Prop extends IsFileName name where
  short : Text.Utf8.size name ≤ nameLimit

/-- A reachable home, unique entries with valid names, and no links. -/
structure IsProper (tree : FileTree) : Prop where
  home : tree.HasHome
  plain : tree.IsPlain
  once : (tree.nodes.map Prod.fst).Nodup
  named : ∀ entry ∈ tree.nodes, ∀ name ∈ entry.1, IsEntryName name

/-- `node?` is membership in `nodes`. -/
theorem node?_eq_some_iff (once : (tree.nodes.map Prod.fst).Nodup) (inside : location ≠ []) :
    tree.node? location = some node ↔ (location, node) ∈ tree.nodes := by
  rw [node?, if_neg inside, Option.map_eq_some_iff]
  constructor
  · rintro ⟨⟨held, found⟩, first, rfl⟩
    have same : (held == location) = true := by simpa using List.find?_some first
    rw [← eq_of_beq same]
    exact List.mem_of_find?_eq_some first
  · intro member
    have there : (tree.nodes.find? fun entry => entry.1 == location).isSome :=
      List.find?_isSome.mpr ⟨_, member, beq_self_eq_true location⟩
    obtain ⟨entry, first⟩ := Option.isSome_iff_exists.mp there
    have same : (entry.1 == location) = true := by simpa using List.find?_some first
    refine ⟨entry, first, ?_⟩
    have only := List.inj_on_of_nodup_map once (List.mem_of_find?_eq_some first) member
      (eq_of_beq same)
    rw [only]

theorem nameBelow?_eq_some_iff {held : Location} :
    nameBelow? location held = some name ↔ held = location ++ [name] := by
  rcases List.eq_nil_or_concat held with rfl | ⟨above, last, rfl⟩
  · simp [nameBelow?]
  · rw [List.concat_eq_append, nameBelow?, List.getLast?_concat, List.dropLast_concat,
      List.append_singleton_inj]
    simp only [Option.ite_none_right_eq_some, Option.some.injEq]

theorem IsPlain.namesBelow (plain : tree.IsPlain) (location : Location) :
    tree.namesBelow location = (tree.nodes.map Prod.fst).filterMap (nameBelow? location) := by
  rw [FileTree.namesBelow, plain, List.map_nil, List.append_nil]

theorem IsPlain.mem_namesBelow (plain : tree.IsPlain) :
    name ∈ tree.namesBelow location ↔ ∃ node, (location ++ [name], node) ∈ tree.nodes := by
  rw [plain.namesBelow, List.mem_filterMap]
  constructor
  · rintro ⟨held, key, below⟩
    rw [nameBelow?_eq_some_iff.mp below] at key
    obtain ⟨⟨_, node⟩, member, rfl⟩ := List.mem_map.mp key
    exact ⟨node, member⟩
  · rintro ⟨node, member⟩
    exact ⟨_, List.mem_map_of_mem member, nameBelow?_eq_some_iff.mpr rfl⟩

/-- `namesBelow` has no duplicates. -/
theorem IsProper.nodup_namesBelow (proper : tree.IsProper) (location : Location) :
    (tree.namesBelow location).Nodup := by
  rw [proper.plain.namesBelow]
  apply proper.once.filterMap
  intro first second name one two
  rw [nameBelow?_eq_some_iff.mp one, nameBelow?_eq_some_iff.mp two]

/-- An entry below a directory is reachable from it. -/
theorem IsProper.stat_below (proper : tree.IsProper)
    (directory : tree.stat (.ofLocation location) = .ok (location, .directory))
    (stands : tree.node? (location ++ [name]) = some node) :
    tree.stat (.ofLocation (location ++ [name])) = .ok (location ++ [name], node) := by
  have member := (node?_eq_some_iff proper.once (List.append_ne_nil_of_right_ne_nil location
    (List.cons_ne_nil name []))).mp stands
  have named := proper.named _ member name (List.mem_append_right location List.mem_cons_self)
  have located := locate_below directory named.toIsFileName
  have free := (Links.isClear_of_empty proper.plain (location ++ [name])).target?
  rw [if_neg (Nat.not_lt.mpr named.short), land_of_target? free] at located
  have noZero := hasZero_below directory named.toIsFileName
  change FileTree.stat tree (Path.below (.ofLocation location) name) = _
  rw [FileTree.stat, noZero, located]
  simp only [Bool.false_eq_true, if_false, stands]

/-- The location of a path consists of valid entry names. -/
theorem HasHome.named (home : tree.HasHome) (noZero : path.hasZero = false)
    (located : tree.locate path = .ok location) : ∀ name ∈ location, IsEntryName name := by
  have reaches := home.locate located
  obtain rfl := location_of_locate located
  intro name member
  obtain ⟨down, short⟩ := reaches.named name member
  have zeros := (hasZero_ofLocation _).mp (home.noZero noZero) name member
  exact ⟨⟨down, zeros⟩, short⟩

theorem keys_putNode (nodes : List (Location × Node)) (location : Location) (node : Node) :
    (putNode nodes location node).map Prod.fst =
      if location ∈ nodes.map Prod.fst then nodes.map Prod.fst
      else nodes.map Prod.fst ++ [location] := by
  induction nodes with
  | nil => rfl
  | cons entry rest ih =>
    obtain ⟨held, old⟩ := entry
    rw [putNode]
    by_cases same : held = location
    · subst same
      simp
    · rw [if_neg same, List.map_cons, ih, List.map_cons]
      by_cases inside : location ∈ rest.map Prod.fst
      · rw [if_pos inside, if_pos (List.mem_cons_of_mem _ inside)]
      · rw [if_neg inside, if_neg (List.not_mem_cons_of_ne_of_not_mem (Ne.symm same) inside),
          List.cons_append]

namespace IsProper

variable {after : FileTree}

/-- `IsProper` is preserved if directories are kept and new entries have valid names. -/
theorem of_keys (proper : tree.IsProper) (keeps : tree.KeepsDirectories after)
    (once : (after.nodes.map Prod.fst).Nodup)
    (named : ∀ key ∈ after.nodes.map Prod.fst,
      key ∈ tree.nodes.map Prod.fst ∨ ∀ name ∈ key, IsEntryName name) : after.IsProper := by
  constructor
  · exact keeps.hasHome proper.home
  · exact (congrArg Links.entries keeps.links).trans proper.plain
  · exact once
  · intro entry member
    rcases named _ (List.mem_map_of_mem member) with old | new
    · obtain ⟨first, held, same⟩ := List.mem_map.mp old
      exact same ▸ proper.named first held
    · exact new

theorem put (proper : tree.IsProper) (named : ∀ name ∈ location, IsEntryName name)
    (free : tree.node? location = some .directory → node = .directory) :
    (tree.put location node).IsProper := by
  have keys : (tree.put location node).nodes.map Prod.fst = _ :=
    keys_putNode tree.nodes location node
  split at keys
  · refine proper.of_keys (.put free) ?_ fun key member => .inl ?_
    · rw [keys]
      exact proper.once
    · rwa [keys] at member
  · rename_i new
    refine proper.of_keys (.put free) ?_ fun key member => ?_
    · rw [keys, ← List.concat_eq_append]
      exact proper.once.concat new
    · rw [keys, List.mem_append, List.mem_singleton] at member
      rcases member with old | rfl
      · exact .inl old
      · exact .inr named

theorem drop (proper : tree.IsProper) (free : tree.node? location ≠ some .directory) :
    (tree.drop location).IsProper := by
  have fewer : ((tree.drop location).nodes.map Prod.fst).Sublist (tree.nodes.map Prod.fst) :=
    List.filter_sublist.map _
  exact proper.of_keys (.drop free) (proper.once.sublist fewer) fun key member =>
    .inl (fewer.subset member)

theorem writeBytes {content : List UInt8} (proper : tree.IsProper)
    (written : tree.writeBytes path content = .ok after) : after.IsProper := by
  have keeps := keeps_writeBytes written
  obtain ⟨location, changed, noZero, located, free, rfl⟩ := writeBytes_ok written
  have put : (tree.put location (.file content changed)).IsProper :=
    proper.put (proper.home.named noZero located) fun stands => absurd stands free
  exact put.of_keys ⟨rfl, rfl, fun _ stands => stands⟩ put.once fun _ member => .inl member

theorem touch {changed : Binary64} (proper : tree.IsProper)
    (touched : tree.touch path changed = .ok after) : after.IsProper := by
  rcases touch_ok touched with rfl | ⟨location, content, old, stands, rfl⟩
  · exact proper
  · apply proper.put (proper.named _ (mem_nodes stands))
    intro directory
    rw [stands] at directory
    cases directory

theorem remove (proper : tree.IsProper) (removed : tree.remove path = .ok after) :
    after.IsProper := by
  obtain ⟨location, content, changed, stands, rfl⟩ := remove_ok removed
  apply proper.drop
  intro directory
  rw [stands] at directory
  cases directory

theorem makeDirectory (proper : tree.IsProper) (path : Path) :
    (FileTree.makeDirectory path tree).2.IsProper := by
  refine makeDirectories_keeps (fun tree after => tree.IsProper → after.IsProper) (fun _ => id)
    (fun first second proper => second (first proper)) ?_ _ path tree proper
  intro tree path after created proper
  obtain ⟨location, noZero, located, -, rfl⟩ := createDirectory_ok created
  exact proper.put (proper.home.named noZero located) fun _ => rfl

end IsProper

/-- The same entries in any order. -/
structure SameEntries (tree other : FileTree) : Prop where
  home : other.home = tree.home
  links : other.links = tree.links
  nodes : other.nodes.Perm tree.nodes

namespace SameEntries

theorem node? (same : tree.SameEntries other) (once : (tree.nodes.map Prod.fst).Nodup)
    (location : Location) : other.node? location = tree.node? location := by
  by_cases root : location = []
  · rw [FileTree.node?, FileTree.node?, if_pos root, if_pos root]
  · have again : (other.nodes.map Prod.fst).Nodup :=
      (same.nodes.map Prod.fst).nodup_iff.mpr once
    apply Option.ext
    intro node
    rw [node?_eq_some_iff again root, node?_eq_some_iff once root]
    exact same.nodes.mem_iff

theorem walkBy (same : tree.SameEntries other) (once : (tree.nodes.map Prod.fst).Nodup)
    (land : Location → Except FileProblem Location) (here : Location) (names : List Text) :
    other.walkBy land here names = tree.walkBy land here names := by
  induction names generalizing here with
  | nil => rfl
  | cons name names ih => simp only [FileTree.walkBy, same.node? once, ih]

theorem land (same : tree.SameEntries other) (once : (tree.nodes.map Prod.fst).Nodup) :
    other.land = tree.land := by
  funext location
  simp only [FileTree.land, walkDirectly, same.links, same.walkBy once]

theorem stat (same : tree.SameEntries other) (once : (tree.nodes.map Prod.fst).Nodup)
    (path : Path) : other.stat path = tree.stat path := by
  simp only [FileTree.stat, locate, walk, start, same.home, same.land once, same.walkBy once,
    same.node? once]

theorem namesBelow (same : tree.SameEntries other) (location : Location) :
    (other.namesBelow location).Perm (tree.namesBelow location) := by
  simp only [FileTree.namesBelow, same.links]
  exact ((same.nodes.map _).append_right _).filterMap _

end SameEntries

end FileTree
end TypedCatalog
