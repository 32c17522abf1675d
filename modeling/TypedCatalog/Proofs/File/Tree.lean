import TypedCatalog.File.Tree
import TypedCatalog.Proofs.File.Links
import Mathlib.Data.List.Induction

/-! Walks in a `FileTree`. `Reaches` states that the names of a location lead to it from the root
through no link; it holds of the end of every walk, and is preserved while directories and links
are. -/
namespace TypedCatalog

namespace FileTree

variable {tree after : FileTree} {path : Path} {here location : Location} {node : Node}
  {names : List Text}

theorem find_putNode (nodes : List (Location × Node)) (other : Location) :
    (putNode nodes location node).find? (fun entry => entry.1 == other) =
      if location = other then some (location, node)
      else nodes.find? fun entry => entry.1 == other := by
  induction nodes with
  | nil => by_cases found : location = other <;> simp [putNode, found]
  | cons entry rest ih =>
    obtain ⟨held, old⟩ := entry
    by_cases same : held = location
    · subst same
      by_cases found : held = other <;> simp [putNode, found]
    · by_cases found : held = other
      · subst found
        simp [putNode, same, Ne.symm same]
      · simp [putNode, same, found, ih]

theorem node?_put (inside : location ≠ []) : (tree.put location node).node? location = some node := by
  rw [node?, if_neg inside, put, find_putNode, if_pos rfl]
  rfl

theorem node?_put_ne {other : Location} (different : location ≠ other) :
    (tree.put location node).node? other = tree.node? other := by
  simp only [node?, put, find_putNode, if_neg different]

theorem put_put (first second : Node) :
    (tree.put location first).put location second = tree.put location second := by
  have again : ∀ nodes, putNode (putNode nodes location first) location second =
      putNode nodes location second := by
    intro nodes
    induction nodes with
    | nil => exact if_pos rfl
    | cons entry rest ih =>
      obtain ⟨held, old⟩ := entry
      by_cases same : held = location
      · simp [putNode, same]
      · simp [putNode, same, ih]
  simp only [put, again]

theorem mem_nodes {content : List UInt8} {changed : Binary64}
    (stands : tree.node? location = some (.file content changed)) :
    (location, .file content changed) ∈ tree.nodes := by
  unfold node? at stands
  split at stands
  · cases stands
  · obtain ⟨⟨held, node⟩, found, same⟩ := Option.map_eq_some_iff.mp stands
    have member := List.mem_of_find?_eq_some found
    have here : (held == location) = true := by simpa using List.find?_some found
    cases same
    cases eq_of_beq here
    exact member

/-- The tree without the node at a location. -/
def drop (tree : FileTree) (location : Location) : FileTree :=
  { tree with nodes := tree.nodes.filter fun entry => entry.1 ≠ location }

theorem node?_drop_ne {other : Location} (different : location ≠ other) :
    (tree.drop location).node? other = tree.node? other := by
  have kept : ∀ nodes : List (Location × Node),
      (nodes.filter fun entry => entry.1 ≠ location).find? (fun entry => entry.1 == other) =
        nodes.find? fun entry => entry.1 == other := by
    intro nodes
    rw [List.find?_filter]
    congr 1
    funext entry
    by_cases same : entry.1 = other
    · simp [same, Ne.symm different]
    · simp [same]
  simp only [node?, drop, kept]

section Walks

variable {land : Location → Except FileProblem Location}

theorem walkBy_append (here : Location) (names more : List Text) :
    tree.walkBy land here (names ++ more) =
      (tree.walkBy land here names).bind (tree.walkBy land · more) := by
  induction names generalizing here with
  | nil => rfl
  | cons name names ih =>
    simp only [List.cons_append, walkBy]
    split
    · rfl
    · rfl
    · split
      · exact ih _
      · split
        · rfl
        · split
          · rfl
          · exact ih _

/-- Inversion of `walkBy` on the first name: `..` or the landing of a child of a directory. -/
theorem walkBy_cons {name : Text} (walked : tree.walkBy land here (name :: names) = .ok location) :
    tree.node? here = some .directory ∧
      (name = ['.', '.'] ∧ tree.walkBy land here.dropLast names = .ok location ∨
        name ≠ ['.', '.'] ∧ Text.Utf8.size name ≤ nameLimit ∧
          ∃ place, land (here ++ [name]) = .ok place ∧
            tree.walkBy land place names = .ok location) := by
  unfold walkBy at walked
  split at walked
  · cases walked
  · cases walked
  · rename_i stands
    refine ⟨stands, ?_⟩
    split at walked
    · rename_i up
      exact .inl ⟨up, walked⟩
    · rename_i down
      split at walked
      · cases walked
      · rename_i short
        split at walked
        · cases walked
        · rename_i place landed
          exact .inr ⟨down, Nat.not_lt.mp short, place, landed, walked⟩

theorem walkBy_down {name : Text} {place : Location} (stands : tree.node? here = some .directory)
    (down : name ≠ ['.', '.']) (short : Text.Utf8.size name ≤ nameLimit)
    (landed : land (here ++ [name]) = .ok place) :
    tree.walkBy land here (name :: names) = tree.walkBy land place names := by
  simp only [walkBy, stands, if_neg down, if_neg (Nat.not_lt.mpr short), landed]

theorem walkBy_up {name : Text} (stands : tree.node? here = some .directory)
    (up : name = ['.', '.']) :
    tree.walkBy land here (name :: names) = tree.walkBy land here.dropLast names := by
  simp only [walkBy, stands, if_pos up]

end Walks

theorem walkDirectly_follow (walked : tree.walkDirectly here names = .ok location) :
    location = Path.follow here names := by
  induction names generalizing here with
  | nil => exact (Except.ok.inj walked).symm
  | cons name names ih =>
    obtain ⟨-, ⟨up, walked⟩ | ⟨down, -, place, landed, walked⟩⟩ := walkBy_cons walked
    · rw [Path.follow, if_pos up]
      exact ih walked
    · cases landed
      rw [Path.follow, if_neg down]
      exact ih walked

theorem length_walkDirectly (walked : tree.walkDirectly here names = .ok location) :
    location.length ≤ here.length + names.length := by
  induction names generalizing here with
  | nil =>
    cases walked
    exact Nat.le_refl _
  | cons name names ih =>
    obtain ⟨-, ⟨-, walked⟩ | ⟨-, -, place, landed, walked⟩⟩ := walkBy_cons walked
    · have bound := ih walked
      rw [List.length_dropLast] at bound
      rw [List.length_cons]
      omega
    · cases landed
      have bound := ih walked
      rw [List.length_append, List.length_singleton] at bound
      rw [List.length_cons]
      omega

theorem land_ok {place : Location} (landed : tree.land location = .ok place) :
    place = tree.links.landing location := by
  cases found : tree.links.target? location with
  | none =>
    simp only [land, found] at landed
    rw [Links.landing_of_target? found, Except.ok.inj landed]
  | some names =>
    simp only [land, found] at landed
    simp only [Links.landing, found]
    exact walkDirectly_follow landed

theorem land_of_target? (free : tree.links.target? location = none) :
    tree.land location = .ok location := by
  rw [land, free]

theorem walk_follow (walked : tree.walk here names = .ok location) :
    location = tree.links.follow here names := by
  induction names generalizing here with
  | nil => exact (Except.ok.inj walked).symm
  | cons name names ih =>
    obtain ⟨-, ⟨up, walked⟩ | ⟨down, -, place, landed, walked⟩⟩ := walkBy_cons walked
    · rw [Links.follow, if_pos up]
      exact ih walked
    · rw [Links.follow, if_neg down, ← land_ok landed]
      exact ih walked

/-- The names of the location lead to it from the root, through no link. -/
structure Reaches (tree : FileTree) (location : Location) : Prop where
  walked : tree.walkDirectly [] location = .ok location
  clear : tree.links.IsClear location

namespace Reaches

theorem root : tree.Reaches [] := ⟨rfl, Links.isClear_root⟩

theorem below {name : Text} (reaches : tree.Reaches here)
    (stands : tree.node? here = some .directory) (down : name ≠ ['.', '.'])
    (short : Text.Utf8.size name ≤ nameLimit) (clear : tree.links.IsClear (here ++ [name])) :
    tree.Reaches (here ++ [name]) := by
  refine ⟨?_, clear⟩
  have walked : tree.walkBy .ok [] here = .ok here := reaches.walked
  rw [walkDirectly, walkBy_append, walked]
  exact walkBy_down stands down short rfl

theorem above {name : Text} (reaches : tree.Reaches (here ++ [name])) : tree.Reaches here := by
  refine ⟨?_, reaches.clear.mono (List.prefix_append here [name])⟩
  have whole := reaches.walked
  rw [walkDirectly, walkBy_append] at whole
  cases walked : tree.walkBy .ok [] here with
  | error problem =>
    rw [walked] at whole
    cases whole
  | ok reached =>
    rw [walked] at whole
    have bound := length_walkDirectly walked
    obtain ⟨-, ⟨-, shape⟩ | ⟨-, -, place, landed, shape⟩⟩ := walkBy_cons whole
    · -- Two dots lead to fewer names than the location has.
      have same := congrArg List.length (Except.ok.inj shape)
      rw [List.length_dropLast, List.length_append, List.length_singleton] at same
      rw [List.length_nil] at bound
      omega
    · cases landed
      rw [walkDirectly, walked, List.append_cancel_right (Except.ok.inj shape)]

/-- The parent of a reached location is a directory, and its last name is not `..`. -/
theorem last {name : Text} (reaches : tree.Reaches (here ++ [name])) :
    tree.node? here = some .directory ∧ name ≠ ['.', '.'] ∧
      Text.Utf8.size name ≤ nameLimit := by
  have above : tree.walkBy .ok [] here = .ok here := reaches.above.walked
  have whole := reaches.walked
  rw [walkDirectly, walkBy_append, above] at whole
  obtain ⟨stands, ⟨-, back⟩ | ⟨down, short, -⟩⟩ := walkBy_cons whole
  · -- Two dots would lead to fewer names.
    have lengths := congrArg List.length (Except.ok.inj back)
    rw [List.length_dropLast, List.length_append, List.length_singleton] at lengths
    omega
  · exact ⟨stands, down, short⟩

theorem dropLast (reaches : tree.Reaches here) : tree.Reaches here.dropLast := by
  rcases List.eq_nil_or_concat here with rfl | ⟨above, name, rfl⟩
  · exact .root
  · rw [List.concat_eq_append] at reaches ⊢
    rw [List.dropLast_concat]
    exact reaches.above

/-- `walkDirectly` from a reached location ends at a reached one. -/
theorem walkDirectly (reaches : tree.Reaches here)
    (clear : ∀ place ∈ Path.passed here names, tree.links.IsClear place)
    (walked : tree.walkDirectly here names = .ok location) : tree.Reaches location := by
  induction names generalizing here with
  | nil =>
    cases walked
    exact reaches
  | cons name names ih =>
    obtain ⟨stands, ⟨up, walked⟩ | ⟨down, short, place, landed, walked⟩⟩ := walkBy_cons walked
    · rw [Path.passed, if_pos up] at clear
      exact ih reaches.dropLast (List.forall_mem_cons.mp clear).2 walked
    · cases landed
      rw [Path.passed, if_neg down] at clear
      obtain ⟨-, clear⟩ := List.forall_mem_cons.mp clear
      have next := clear _ (Path.start_mem_passed _ names)
      exact ih (reaches.below stands down short next) clear walked

theorem walk (reaches : tree.Reaches here) (walked : tree.walk here names = .ok location) :
    tree.Reaches location := by
  induction names generalizing here with
  | nil =>
    cases walked
    exact reaches
  | cons name names ih =>
    obtain ⟨stands, ⟨-, walked⟩ | ⟨down, short, place, landed, walked⟩⟩ := walkBy_cons walked
    · exact ih reaches.dropLast walked
    · refine ih ?_ walked
      unfold land at landed
      split at landed
      · rename_i free
        cases landed
        exact reaches.below stands down short (reaches.clear.below free)
      · rename_i target found
        exact root.walkDirectly (Links.isClear_of_target? found) landed

/-- `walk` along the names of a reached location ends there, since no link stands on it. -/
theorem led (reaches : tree.Reaches location) : tree.walk [] location = .ok location := by
  induction location using List.reverseRecOn with
  | nil => rfl
  | append_singleton above last ih =>
    obtain ⟨stands, down, short⟩ := reaches.last
    have walked : tree.walkBy tree.land [] above = .ok above := ih reaches.above
    rw [FileTree.walk, walkBy_append, walked]
    exact walkBy_down stands down short (land_of_target? reaches.clear.target?)

end Reaches

theorem stat_ok {found : Location × Node} (stat : tree.stat path = .ok found) :
    path.hasZero = false ∧ tree.locate path = .ok found.1 ∧ tree.node? found.1 = some found.2 := by
  unfold FileTree.stat at stat
  split at stat
  · cases stat
  · rename_i noZero
    split at stat
    · cases stat
    · rename_i place located
      split at stat
      · cases stat
      · rename_i node stands
        cases stat
        exact ⟨Bool.not_eq_true _ ▸ noZero, located, stands⟩

/-- The home is a directory that the tree `Reaches`. -/
def HasHome (tree : FileTree) : Prop :=
  tree.stat (.ofLocation tree.home) = .ok (tree.home, .directory)

theorem HasHome.reaches (home : tree.HasHome) : tree.Reaches tree.home :=
  Reaches.root.walk (stat_ok home).2.1

/-- The start of every path is reached. -/
theorem HasHome.reaches_start (home : tree.HasHome) (path : Path) :
    tree.Reaches (tree.start path) ∧ tree.node? (tree.start path) = some .directory := by
  unfold start
  split
  · exact ⟨.root, rfl⟩
  · exact ⟨home.reaches, (stat_ok home).2.2⟩

theorem location_of_locate (located : tree.locate path = .ok location) :
    location = tree.location path := walk_follow located

theorem HasHome.locate (home : tree.HasHome) (located : tree.locate path = .ok location) :
    tree.Reaches location := (home.reaches_start path).1.walk located

theorem hasZero_ofLocation (location : Location) :
    (Path.ofLocation location).hasZero = false ↔ ∀ name ∈ location, ∀ c ∈ name, c.toNat ≠ 0 := by
  simp [Path.hasZero, Path.ofLocation]

theorem HasHome.noZero (home : tree.HasHome) (noZero : path.hasZero = false) :
    (Path.ofLocation (tree.location path)).hasZero = false := by
  apply (hasZero_ofLocation _).mpr
  refine Links.noZero_follow ?_ ((hasZero_ofLocation path.names).mp noZero)
  unfold start
  split
  · exact List.forall_mem_nil _
  · exact (hasZero_ofLocation _).mp (stat_ok home).1

/-- `resolve` yields the path of the location that `stat` finds, and that path has the same
`stat`. -/
theorem HasHome.resolve (home : tree.HasHome) (stat : tree.stat path = .ok (location, node)) :
    tree.resolve path = .ok (.ofLocation location) ∧
      tree.stat (.ofLocation location) = .ok (location, node) := by
  obtain ⟨noZero, located, stands⟩ := stat_ok stat
  have reaches := home.locate located
  obtain rfl := location_of_locate located
  constructor
  · rw [FileTree.resolve, noZero]
    rfl
  · have again : tree.locate (.ofLocation (tree.location path)) = .ok (tree.location path) :=
      reaches.led
    rw [FileTree.stat, home.noZero noZero, again]
    simp only [Bool.false_eq_true, if_false, stands]

/-- `locate` agrees with `locateEntry` if no link stands at the last name. -/
theorem locate_of_locateEntry (entry : tree.locateEntry path = .ok location)
    (free : tree.links.target? location = none) : tree.locate path = .ok location := by
  unfold locateEntry at entry
  unfold FileTree.locate
  rcases List.eq_nil_or_concat path.names with root | ⟨front, last, names⟩
  · rw [root] at entry ⊢
    exact entry
  · rw [names, List.concat_eq_append, List.dropLast_concat, List.getLast?_concat] at entry
    rw [names, List.concat_eq_append, FileTree.walk, walkBy_append]
    split at entry
    · cases entry
    · rename_i middle walked
      have walked : tree.walkBy tree.land (tree.start path) front = .ok middle := walked
      rw [walked]
      obtain ⟨stands, ⟨up, ends⟩ | ⟨down, short, place, landed, ends⟩⟩ := walkBy_cons entry
      · exact (walkBy_up stands up).trans ends
      · cases landed
        cases ends
        exact walkBy_down stands down short (land_of_target? free)

/-- Where a path leads that is no link is where its last name stands. -/
theorem locateEntry_of_locate (located : tree.locate path = .ok location) :
    ∃ entry, tree.locateEntry path = .ok entry ∧
      (tree.links.target? entry = none → entry = location) := by
  unfold FileTree.locate at located
  unfold locateEntry
  rcases List.eq_nil_or_concat path.names with root | ⟨front, last, names⟩
  · rw [root] at located ⊢
    exact ⟨location, located, fun _ => rfl⟩
  · rw [names, List.concat_eq_append] at located ⊢
    rw [FileTree.walk, walkBy_append] at located
    rw [List.dropLast_concat, List.getLast?_concat, FileTree.walk]
    cases walked : tree.walkBy tree.land (tree.start path) front with
    | error problem =>
      rw [walked] at located
      cases located
    | ok middle =>
      rw [walked] at located
      obtain ⟨stands, ⟨up, ends⟩ | ⟨down, short, place, landed, ends⟩⟩ := walkBy_cons located
      · exact ⟨location, (walkBy_up stands up).trans ends, fun _ => rfl⟩
      · refine ⟨middle ++ [last], walkBy_down stands down short rfl, ?_⟩
        intro free
        cases ends
        rw [land_ok landed, Links.landing_of_target? free]

/-- No link stands at the last name of the path. -/
def IsDirect (tree : FileTree) (path : Path) : Prop :=
  ∀ entry, tree.locateEntry path = .ok entry → tree.links.target? entry = none

/-- The last name of the location of a file is that of every path that leads to it through no final
link. -/
theorem HasHome.name (home : tree.HasHome) (entry : tree.locateEntry path = .ok location)
    (other : tree.node? location ≠ some .directory) :
    (Path.ofLocation location).name = path.name := by
  obtain ⟨starts, stands⟩ := home.reaches_start path
  unfold locateEntry at entry
  rcases List.eq_nil_or_concat path.names with root | ⟨front, last, names⟩
  · rw [root] at entry
    cases entry
    exact absurd stands other
  · rw [names, List.concat_eq_append, List.dropLast_concat, List.getLast?_concat] at entry
    split at entry
    · cases entry
    · rename_i middle walked
      obtain ⟨-, ⟨-, entry⟩ | ⟨-, -, place, landed, entry⟩⟩ := walkBy_cons entry
      · cases entry
        have reaches := starts.walk walked
        rcases List.eq_nil_or_concat middle with rfl | ⟨above, name, rfl⟩
        · exact absurd rfl other
        · -- Two dots lead to a directory, since the walk came through it.
          rw [List.concat_eq_append] at reaches other
          rw [List.dropLast_concat] at other
          exact absurd reaches.last.1 other
      · cases landed
        cases entry
        rw [Path.name, Path.name, names, List.concat_eq_append, List.getLastD_concat]
        exact List.getLastD_concat

theorem isDirect_of_empty (empty : tree.links.entries = []) (path : Path) : tree.IsDirect path :=
  fun entry _ => (Links.isClear_of_empty empty entry).target?

/-- The last name of the location of a file is that of every `IsDirect` path to it. -/
theorem IsDirect.name (direct : tree.IsDirect path) (home : tree.HasHome)
    (located : tree.locate path = .ok location) (other : tree.node? location ≠ some .directory) :
    (Path.ofLocation location).name = path.name := by
  obtain ⟨entry, stands, same⟩ := locateEntry_of_locate located
  obtain rfl := same (direct entry stands)
  exact home.name stands other

/-- Every directory, the home and the links are preserved. -/
structure KeepsDirectories (tree after : FileTree) : Prop where
  home : after.home = tree.home
  links : after.links = tree.links
  directories : ∀ location, tree.node? location = some .directory →
    after.node? location = some .directory

namespace KeepsDirectories

theorem refl (tree : FileTree) : tree.KeepsDirectories tree := ⟨rfl, rfl, fun _ stands => stands⟩

theorem trans {last : FileTree} (first : tree.KeepsDirectories after)
    (second : after.KeepsDirectories last) : tree.KeepsDirectories last := by
  constructor
  · exact second.home.trans first.home
  · exact second.links.trans first.links
  · intro location stands
    exact second.directories location (first.directories location stands)

theorem walkBy {land next : Location → Except FileProblem Location}
    (keeps : tree.KeepsDirectories after)
    (lands : ∀ location place, land location = .ok place → next location = .ok place)
    (walked : tree.walkBy land here names = .ok location) :
    after.walkBy next here names = .ok location := by
  induction names generalizing here with
  | nil => exact walked
  | cons name names ih =>
    obtain ⟨stands, ⟨up, walked⟩ | ⟨down, short, place, landed, walked⟩⟩ := walkBy_cons walked
    · rw [walkBy_up (keeps.directories _ stands) up]
      exact ih walked
    · rw [walkBy_down (keeps.directories _ stands) down short (lands _ _ landed)]
      exact ih walked

theorem land {place : Location} (keeps : tree.KeepsDirectories after)
    (landed : tree.land location = .ok place) : after.land location = .ok place := by
  unfold FileTree.land at landed ⊢
  rw [keeps.links]
  split at landed
  · exact landed
  · exact keeps.walkBy (fun _ _ => id) landed

theorem walk (keeps : tree.KeepsDirectories after) (walked : tree.walk here names = .ok location) :
    after.walk here names = .ok location := keeps.walkBy (fun _ _ => keeps.land) walked

theorem start (keeps : tree.KeepsDirectories after) (path : Path) :
    after.start path = tree.start path := by
  rw [FileTree.start, FileTree.start, keeps.home]

theorem location_eq (keeps : tree.KeepsDirectories after) (path : Path) :
    after.location path = tree.location path := by
  rw [FileTree.location, FileTree.location, keeps.start, keeps.links]

theorem locate (keeps : tree.KeepsDirectories after) (located : tree.locate path = .ok location) :
    after.locate path = .ok location := by
  unfold FileTree.locate at located ⊢
  rw [keeps.start]
  exact keeps.walk located

theorem hasHome (keeps : tree.KeepsDirectories after) (home : tree.HasHome) : after.HasHome := by
  obtain ⟨noZero, located, stands⟩ := stat_ok home
  unfold HasHome FileTree.stat
  rw [keeps.home, noZero, keeps.locate located]
  simp only [Bool.false_eq_true, if_false, keeps.directories _ stands]

/-- `put` keeps directories unless it replaces one by a file. -/
theorem put (free : tree.node? location = some .directory → node = .directory) :
    tree.KeepsDirectories (tree.put location node) := by
  refine ⟨rfl, rfl, ?_⟩
  · intro other stands
    by_cases same : location = other
    · subst same
      by_cases root : location = []
      · rw [node?, if_pos root]
      · rw [node?_put root, free stands]
    · rw [node?_put_ne same]
      exact stands

theorem drop (free : tree.node? location ≠ some .directory) :
    tree.KeepsDirectories (tree.drop location) := by
  refine ⟨rfl, rfl, ?_⟩
  · intro other stands
    have different : location ≠ other := by
      rintro rfl
      exact free stands
    rw [node?_drop_ne different]
    exact stands

end KeepsDirectories

end FileTree
end TypedCatalog
