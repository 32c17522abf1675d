import TypedCatalog.Proofs.File.Tree
import TypedCatalog.Proofs.Text.Clean
import TypedCatalog.Proofs.Text.Utf8

/-! Operations that change a `FileTree` preserve its directories, and reading a path returns the
bytes last written to it. -/
namespace TypedCatalog.FileTree

variable {tree after : FileTree} {path : Path}

/-- `openFile` puts an empty file at the location of the path. -/
theorem openFile_ok {location : Location} (opened : tree.openFile path = .ok (location, after)) :
    path.hasZero = false ∧ tree.locate path = .ok location ∧
      tree.node? location ≠ some .directory ∧ after = tree.put location (.file [] tree.now) := by
  unfold openFile at opened
  split at opened
  · cases opened
  · rename_i noZero
    split at opened
    · cases opened
    · rename_i place located
      split at opened
      · cases opened
      · rename_i free
        cases opened
        exact ⟨Bool.not_eq_true _ ▸ noZero, located, free, rfl⟩

theorem ne_nil_of_node? {location : Location} (free : tree.node? location ≠ some .directory) :
    location ≠ [] := by
  rintro rfl
  exact free rfl

/-- `fill` on an empty file replaces its content. -/
theorem fill_put {location : Location} {changed : Binary64} (content : List UInt8)
    (inside : location ≠ []) : (tree.put location (.file [] changed)).fill location content =
      { tree.put location (.file content tree.now) with clock := tree.clock + 1 } := by
  have empty : (tree.put location (.file [] changed)).behind location content.length = [] := by
    simp only [behind, node?_put inside, List.drop_nil]
  rw [fill, empty, List.append_nil, put_put]
  rfl

/-- `writeBytes` puts the file at the location of the path. -/
theorem writeBytes_ok {content : List UInt8} (written : tree.writeBytes path content = .ok after) :
    ∃ location changed, path.hasZero = false ∧ tree.locate path = .ok location ∧
      tree.node? location ≠ some .directory ∧
      after = { tree.put location (.file content changed) with clock := tree.clock + 1 } := by
  unfold writeBytes at written
  split at written
  · cases written
  · rename_i location middle opened
    obtain ⟨noZero, located, free, rfl⟩ := openFile_ok opened
    refine ⟨location, tree.now, noZero, located, free, ?_⟩
    rw [← Except.ok.inj written, fill_put content (ne_nil_of_node? free)]

theorem touch_ok {changed : Binary64} (touched : tree.touch path changed = .ok after) :
    after = tree ∨ ∃ location content old, tree.node? location = some (.file content old) ∧
      after = tree.put location (.file content changed) := by
  unfold touch at touched
  split at touched
  · cases touched
  · rename_i location content old stat
    exact .inr ⟨location, content, old, (stat_ok stat).2.2, (Except.ok.inj touched).symm⟩
  · exact .inl (Except.ok.inj touched).symm

theorem remove_ok (removed : tree.remove path = .ok after) :
    ∃ location content changed, tree.node? location = some (.file content changed) ∧
      after = tree.drop location := by
  unfold remove at removed
  split at removed
  · cases removed
  · cases removed
  · rename_i location content changed stat
    exact ⟨location, content, changed, (stat_ok stat).2.2, (Except.ok.inj removed).symm⟩

theorem createDirectory_ok (created : tree.createDirectory path = .ok after) :
    ∃ location, path.hasZero = false ∧ tree.locate path = .ok location ∧
      tree.node? location = none ∧ after = tree.put location .directory := by
  unfold createDirectory at created
  split at created
  · cases created
  · rename_i noZero
    split at created
    · cases created
    · rename_i location entry
      split at created
      · rename_i direct free
        exact ⟨location, Bool.not_eq_true _ ▸ noZero, locate_of_locateEntry entry direct, free,
          (Except.ok.inj created).symm⟩
      · cases created

/-- Inversion of `ensureDirectory`: the directory exists, or nothing does and it is created. -/
theorem ensureDirectory_ok (ensured : tree.ensureDirectory path = .ok after) :
    tree.find path = .ok (some .directory) ∧ after = tree ∨
      tree.createDirectory path = .ok after := by
  unfold ensureDirectory at ensured
  split at ensured
  · cases ensured
  · split at ensured
    · cases ensured
    · rename_i found
      exact .inl ⟨found, (Except.ok.inj ensured).symm⟩
    · cases ensured
  · exact .inr ensured

theorem keeps_writeBytes {content : List UInt8}
    (written : tree.writeBytes path content = .ok after) : tree.KeepsDirectories after := by
  obtain ⟨location, changed, -, -, free, rfl⟩ := writeBytes_ok written
  have keeps : tree.KeepsDirectories (tree.put location (.file content changed)) :=
    .put fun stands => absurd stands free
  exact ⟨keeps.home, keeps.links, keeps.directories⟩

theorem keeps_touch {changed : Binary64} (touched : tree.touch path changed = .ok after) :
    tree.KeepsDirectories after := by
  rcases touch_ok touched with rfl | ⟨location, content, old, stands, rfl⟩
  · exact .refl _
  · apply KeepsDirectories.put
    intro directory
    rw [stands] at directory
    cases directory

theorem keeps_remove (removed : tree.remove path = .ok after) : tree.KeepsDirectories after := by
  obtain ⟨location, content, changed, stands, rfl⟩ := remove_ok removed
  apply KeepsDirectories.drop
  intro directory
  rw [stands] at directory
  cases directory

theorem keeps_createDirectory (created : tree.createDirectory path = .ok after) :
    tree.KeepsDirectories after := by
  obtain ⟨location, -, -, -, rfl⟩ := createDirectory_ok created
  exact .put fun _ => rfl

/-- A reflexive, transitive relation that every `ensureDirectory` respects is respected by
`makeDirectories`, also on failure. -/
theorem makeDirectories_keeps (Keeps : FileTree → FileTree → Prop)
    (same : ∀ tree, Keeps tree tree)
    (chain : ∀ {first second third}, Keeps first second → Keeps second third → Keeps first third)
    (created : ∀ {tree path after}, createDirectory tree path = .ok after → Keeps tree after)
    (depth : Nat) (path : Path) (tree : FileTree) :
    Keeps tree (makeDirectories depth path tree).2 := by
  have ensured {tree path after} (done : ensureDirectory tree path = .ok after) :
      Keeps tree after := by
    rcases ensureDirectory_ok done with ⟨-, rfl⟩ | done
    · exact same _
    · exact created done
  induction depth generalizing path tree with
  | zero =>
    unfold makeDirectories
    cases done : tree.ensureDirectory path with
    | ok after => exact ensured done
    | error fault => exact same _
  | succ depth ih =>
    unfold makeDirectories
    split
    · rename_i after done
      exact ensured done
    · split
      · exact same _
      · have above := ih path.parent tree
        split
        · rename_i made
          rw [made] at above
          exact above
        · rename_i middle made
          rw [made] at above
          cases done : middle.ensureDirectory path with
          | ok after => exact chain above (ensured done)
          | error fault => exact above
    · exact same _

theorem keeps_makeDirectories (depth : Nat) (path : Path) (tree : FileTree) :
    tree.KeepsDirectories (makeDirectories depth path tree).2 :=
  makeDirectories_keeps KeepsDirectories .refl .trans keeps_createDirectory depth path tree

theorem keeps_makeDirectory (path : Path) (tree : FileTree) :
    tree.KeepsDirectories (makeDirectory path tree).2 := keeps_makeDirectories _ path tree

theorem keeps_of_made {result : Except Fault Unit}
    (made : makeDirectory path tree = (result, after)) : tree.KeepsDirectories after := by
  have keeps := keeps_makeDirectory path tree
  rwa [made] at keeps

theorem keeps_change {operation : FileTree → Except Fault FileTree}
    (keeps : ∀ after, operation tree = .ok after → tree.KeepsDirectories after) :
    tree.KeepsDirectories (FileAction.change operation tree).2 := by
  unfold FileAction.change
  split
  · rename_i after done
    exact keeps after done
  · exact .refl _

theorem stat_writeBytes {content : List UInt8}
    (written : tree.writeBytes path content = .ok after) :
    ∃ location changed, after.stat path = .ok (location, .file content changed) := by
  have keeps := keeps_writeBytes written
  obtain ⟨location, changed, noZero, located, free, rfl⟩ := writeBytes_ok written
  refine ⟨location, changed, ?_⟩
  have inside : location ≠ [] := by
    rintro rfl
    exact free rfl
  have stands : FileTree.node? { tree.put location (.file content changed) with
      clock := tree.clock + 1 } location = some (.file content changed) := node?_put inside
  unfold stat
  rw [noZero, keeps.locate located]
  simp only [Bool.false_eq_true, if_false, stands]

theorem joinLineEnds_cons {c : Char} (other : c ≠ '\r') (rest : Text) :
    joinLineEnds (c :: rest) = c :: joinLineEnds rest :=
  joinLineEnds.eq_3 c rest (fun _ same _ => other same) other

theorem joinLineEnds_single {rest : Text} (single : ∀ more, rest ≠ '\n' :: more) :
    joinLineEnds ('\r' :: rest) = '\n' :: joinLineEnds rest := joinLineEnds.eq_2 rest single

theorem joinLineEnds_return (rest : Text) :
    ∃ more, joinLineEnds ('\r' :: rest) = '\n' :: joinLineEnds more := by
  cases rest with
  | nil => exact ⟨[], rfl⟩
  | cons c more =>
    by_cases same : c = '\n'
    · subst same
      exact ⟨more, rfl⟩
    · exact ⟨c :: more, joinLineEnds_single fun _ first => same (List.cons.inj first).1⟩

/-- `joinLineEnds` is the identity on a clean prefix. -/
theorem joinLineEnds_append {front : Text} (clean : IsClean front) (rest : Text) :
    joinLineEnds (front ++ rest) = front ++ joinLineEnds rest := by
  induction front with
  | nil => rfl
  | cons c front ih =>
    obtain ⟨other, clean⟩ := List.ne_and_not_mem_of_not_mem_cons clean
    rw [List.cons_append, joinLineEnds_cons other.symm, ih clean, List.cons_append]

theorem joinLineEnds_of_clean {text : Text} (clean : IsClean text) : joinLineEnds text = text := by
  rw [← List.append_nil text, joinLineEnds_append clean, joinLineEnds]

/-- `readText` by the node at the path. -/
theorem readText_of_stat {location : Location} {content : List UInt8} {changed : Binary64}
    (stat : tree.stat path = .ok (location, .file content changed)) :
    tree.readText path = match Text.Utf8.decode? content with
      | none => .error .encoding
      | some text => .ok (joinLineEnds text) := by
  cases decoded : Text.Utf8.decode? content with
  | none => simp only [readText, readBytes, stat, decoded]
  | some text => simp only [readText, readBytes, stat, decoded]

end TypedCatalog.FileTree
