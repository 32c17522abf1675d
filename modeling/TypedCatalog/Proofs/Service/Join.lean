import TypedCatalog.Proofs.Service.Segments

/-! Prefix properties of `Url.join`: when the joined address begins with the directory of the base.
-/
namespace TypedCatalog.Url

section Parts

variable {text rest : Text} {mark : Char}

theorem cutAt_absent (absent : mark ∉ text) : cutAt mark text = (text, []) := by
  rw [cutAt, Text.cut?_absent absent]
  rfl

/-- `cutAt` preserves the first character, unless it is the separator. -/
theorem head_cutAt {c : Char} (first : c ∈ (cutAt mark text).1.head?) :
    c ∈ text.head? ∧ c ≠ mark := by
  cases text with
  | nil => cases first
  | cons d text =>
    by_cases same : d = mark
    · rw [cutAt, Text.cut?, if_pos same] at first
      cases first
    · rw [cutAt, Text.cut?, if_neg same] at first
      cases found : Text.cut? mark text with
      | none =>
        rw [found] at first
        cases first
        exact ⟨rfl, same⟩
      | some parts =>
        rw [found] at first
        cases first
        exact ⟨rfl, same⟩

theorem length_takeWhile_le {holds : Char → Bool} (stop : holds mark = false) (text : Text) :
    ((text ++ [mark]).takeWhile holds).length ≤ text.length := by
  induction text with
  | nil => simp [stop]
  | cons c text ih =>
    rw [List.cons_append, List.takeWhile_cons]
    split
    · exact Nat.succ_le_succ ih
    · exact Nat.zero_le _

theorem filter_breaks (tab : '\t' ∉ text) (carriage : '\r' ∉ text) (newLine : '\n' ∉ text) :
    text.filter (fun c => c ≠ '\t' && c ≠ '\r' && c ≠ '\n') = text := by
  apply List.filter_eq_self.mpr
  intro c member
  have other {mark : Char} (absent : mark ∉ text) : c ≠ mark := by
    rintro rfl
    exact absent member
  simp [other tab, other carriage, other newLine]

/-- `clean` is the identity on visible characters. -/
theorem clean_of_visible (visible : ∀ c ∈ text, 0x20 < c.toNat) : clean text = text := by
  have absent {mark : Char} (low : ¬0x20 < mark.toNat) : mark ∉ text := fun member =>
    low (visible mark member)
  have kept := filter_breaks (absent (by decide)) (absent (by decide)) (absent (by decide))
  cases text with
  | nil => rfl
  | cons c text =>
    have first := visible c List.mem_cons_self
    rw [clean, List.dropWhile_cons_of_neg (by simpa using first), kept]

theorem cutParams_slash (path : Text) : (cutParams ('/' :: path)).1.head? = some '/' := by
  have short : ((('/' :: path).reverse.takeWhile (· ≠ '/')).reverse).length ≤ path.length := by
    rw [List.length_reverse, List.reverse_cons]
    exact Nat.le_trans (length_takeWhile_le (by decide) path.reverse)
      (Nat.le_of_eq List.length_reverse)
  unfold cutParams
  dsimp only
  generalize (('/' :: path).reverse.takeWhile (· ≠ '/')).reverse = last at short
  obtain ⟨count, counted⟩ : ∃ count, ('/' :: path).length - last.length = count + 1 :=
    ⟨path.length - last.length, by rw [List.length_cons]; omega⟩
  rw [counted]
  rfl

theorem cutParams_absent {path : Text} (absent : ';' ∉ path) : cutParams path = (path, []) := by
  have parts := List.takeWhile_append_dropWhile (p := (· ≠ '/')) (l := path.reverse)
  have whole : (path.reverse.dropWhile (· ≠ '/')).reverse ++
      (path.reverse.takeWhile (· ≠ '/')).reverse = path := by
    rw [← List.reverse_append, parts, List.reverse_reverse]
  unfold cutParams
  dsimp only
  generalize (path.reverse.dropWhile (· ≠ '/')).reverse = front at whole
  generalize (path.reverse.takeWhile (· ≠ '/')).reverse = last at whole ⊢
  subst whole
  rw [cutAt_absent fun member => absent (List.mem_append_right _ member), List.length_append,
    Nat.add_sub_cancel, List.take_left]

theorem cutParams_directory (segments : List Text) :
    cutParams (directory segments) = (directory segments, []) := by
  obtain ⟨front, shape⟩ : ∃ front, directory segments = front ++ ['/'] := by
    rcases List.eq_nil_or_concat segments with rfl | ⟨front, last, rfl⟩
    · exact ⟨[], rfl⟩
    · exact ⟨'/' :: (front.flatMap (· ++ ['/']) ++ last), by simp [directory]⟩
  have nothing : (((front ++ ['/']).reverse.takeWhile (· ≠ '/')).reverse : Text) = [] := by simp
  rw [shape, cutParams, nothing, List.length_nil, Nat.sub_zero, List.take_length]
  simp [cutAt, Text.cut?]

end Parts

/-- A scheme, a host and segments, each with a slash at its end. -/
structure Base where
  scheme : Text
  host : Text
  segments : List Text

/-- No separator of addresses. -/
def isPlain (c : Char) : Bool :=
  !Host.isDisguise c && c ∉ ['/', '?', '#', ';', '[', ']', '\t', '\r', '\n']

namespace Base

def path (base : Base) : Text := directory base.segments

def text (base : Base) : Text := base.scheme ++ ':' :: ('/' :: '/' :: base.host ++ base.path)

structure IsPlain (base : Base) : Prop where
  scheme : base.scheme = "http" ∨ base.scheme = "https"
  host : base.host ≠ []
  hostPlain : ∀ c ∈ base.host, isPlain c = true
  names : ∀ segment ∈ base.segments, segment ≠ [] ∧ segment ≠ ['.'] ∧ segment ≠ ['.', '.']
  plain : ∀ segment ∈ base.segments, ∀ c ∈ segment, isPlain c = true

variable {base : Base}

theorem IsPlain.not_mem_host (plain : base.IsPlain) (mark : Char) (other : isPlain mark = false) :
    mark ∉ base.host := by
  intro member
  rw [plain.hostPlain mark member] at other
  cases other

theorem IsPlain.not_mem_path (plain : base.IsPlain) (mark : Char) (other : isPlain mark = false)
    (slash : mark ≠ '/') : mark ∉ base.path := by
  intro member
  rcases List.mem_cons.mp member with same | member
  · exact slash same
  · obtain ⟨segment, inside, member⟩ := List.mem_flatMap.mp member
    rcases List.mem_append.mp member with member | member
    · rw [plain.plain segment inside mark member] at other
      cases other
    · exact slash (List.mem_singleton.mp member)

theorem IsPlain.areSegments (plain : base.IsPlain) : AreSegments base.segments := by
  intro segment inside member
  cases plain.plain segment inside '/' member

theorem IsPlain.scheme_ne_nil (plain : base.IsPlain) : base.scheme ≠ [] := by
  rcases plain.scheme with same | same <;> rw [same] <;> decide

/-- A separator that does not occur in the scheme does not occur in a plain base. -/
theorem IsPlain.not_mem_text (plain : base.IsPlain) (mark : Char) (other : isPlain mark = false)
    (named : mark ∉ ['/', ':', 'h', 't', 'p', 's']) : mark ∉ base.text := by
  simp only [List.mem_cons, List.not_mem_nil, or_false, not_or] at named
  obtain ⟨slash, colon, h, t, p, s⟩ := named
  have scheme : mark ∉ base.scheme := by
    rcases plain.scheme with same | same <;> rw [same] <;> simp [h, t, p, s]
  simp [text, scheme, colon, slash, plain.not_mem_host mark other,
    plain.not_mem_path mark other slash]

theorem IsPlain.cutScheme (plain : base.IsPlain) (rest : Text) :
    cutScheme? (base.scheme ++ ':' :: rest) = some (base.scheme, rest) := by
  rcases plain.scheme with same | same <;> rw [same] <;> rfl

theorem IsPlain.schemes (plain : base.IsPlain) : relativeSchemes.contains base.scheme = true ∧
    hostSchemes.contains base.scheme = true ∧ paramSchemes.contains base.scheme = true := by
  rcases plain.scheme with same | same <;> rw [same] <;> decide

theorem IsPlain.not_endsHost (plain : base.IsPlain) : ∀ c ∈ base.host, endsHost c = false := by
  intro c member
  have other : ∀ mark, isPlain mark = false → c ≠ mark := by
    rintro mark free rfl
    exact plain.not_mem_host c free member
  simp [endsHost, other '/' (by decide), other '?' (by decide), other '#' (by decide)]

theorem IsPlain.check (plain : base.IsPlain) : Host.check base.host = .ok () := by
  have opening := plain.not_mem_host '[' (by decide)
  have closing := plain.not_mem_host ']' (by decide)
  have open_ : base.host.any Host.isDisguise = false := by
    rw [List.any_eq_false]
    intro c member disguise
    have holds := plain.hostPlain c member
    simp [isPlain, disguise] at holds
  simp [Host.check, opening, closing, Text.cut?_absent opening, open_]
  rfl

theorem cutHost_slashes {host path : Text} (free : ∀ c ∈ host, endsHost c = false)
    (ends : ∀ c ∈ path.head?, endsHost c = true) :
    cutHost ('/' :: '/' :: host ++ path) = (host, path) := by
  have taken : (host ++ path).takeWhile (fun c => !endsHost c) = host ∧
      (host ++ path).dropWhile (fun c => !endsHost c) = path := by
    rw [List.takeWhile_append_of_pos (by simpa using free),
      List.dropWhile_append_of_pos (by simpa using free)]
    cases path with
    | nil => exact ⟨List.append_nil host, rfl⟩
    | cons c path => simp [ends c rfl]
  exact Prod.ext taken.1 taken.2

theorem IsPlain.clean (plain : base.IsPlain) (rest : Text) :
    clean (base.text ++ rest) =
      base.text ++ rest.filter fun c => c ≠ '\t' && c ≠ '\r' && c ≠ '\n' := by
  have starts : ∃ c more, base.text = c :: more ∧ 0x20 < c.toNat := by
    unfold text
    rcases plain.scheme with same | same <;> rw [same] <;> exact ⟨'h', _, rfl, by decide⟩
  have kept := filter_breaks (plain.not_mem_text '\t' (by decide) (by decide))
    (plain.not_mem_text '\r' (by decide) (by decide))
    (plain.not_mem_text '\n' (by decide) (by decide))
  obtain ⟨c, more, shape, visible⟩ := starts
  have unchanged : (base.text ++ rest).dropWhile (fun c => c.toNat ≤ 0x20) = base.text ++ rest := by
    rw [shape, List.cons_append, List.dropWhile_cons_of_neg (by simpa using visible)]
  rw [Url.clean, unchanged, List.filter_append, kept]

theorem IsPlain.parse (plain : base.IsPlain) :
    Url.parse [] base.text = .ok ⟨base.scheme, base.host, base.path, [], [], []⟩ := by
  have cleaned := plain.clean []
  rw [List.append_nil, List.filter_nil, List.append_nil] at cleaned
  have host : cutHost ('/' :: '/' :: base.host ++ base.path) = (base.host, base.path) :=
    cutHost_slashes plain.not_endsHost (by simp [path, directory, endsHost])
  simp only [Url.parse, cleaned]
  rw [text, plain.cutScheme, Option.getD_some]
  simp only [host, plain.check, plain.schemes.2.2, if_true,
    cutAt_absent (plain.not_mem_path '#' (by decide) (by decide)),
    cutAt_absent (plain.not_mem_path '?' (by decide) (by decide))]
  rw [path, cutParams_directory]

end Base

variable {base : Base} {url : Url} {mark : Char} {start path part : Text}

/-- The path with a leading slash, unless it is empty. -/
def slashed (path : Text) : Text :=
  if path ≠ [] && path.head? ≠ some '/' then '/' :: path else path

theorem prefix_withPart (absent : mark ∉ start) :
    start <+: withPart mark path part ↔ start <+: path := by
  unfold withPart
  split
  · exact Iff.rfl
  · exact prefix_mark absent

theorem slashed_cons (c : Char) (path : Text) : ∃ rest, slashed (c :: path) = '/' :: rest := by
  by_cases slash : c = '/'
  · exact ⟨path, by simp [slashed, slash]⟩
  · exact ⟨c :: path, by simp [slashed, slash]⟩

theorem slashed_withPart (whole : path = [] → part = []) :
    slashed (withPart ';' path part) = withPart ';' (slashed path) part := by
  unfold withPart
  split
  · rfl
  · rename_i present
    cases path with
    | nil => exact absurd (whole rfl) present
    | cons c path =>
      by_cases slash : c = '/'
      · simp [slashed, slash]
      · simp [slashed, slash]

theorem text_eq (scheme : url.scheme ≠ []) (host : url.host ≠ []) :
    url.text = withPart '#' (withPart '?' (url.scheme ++ ':' :: ('/' :: '/' :: url.host ++
      slashed (withPart ';' url.path url.params))) url.query) url.fragment := by
  have named : (decide (url.host ≠ []) || decide (url.scheme ≠ []) &&
      hostSchemes.contains url.scheme ||
        Text.startsWith ['/', '/'] (withPart ';' url.path url.params)) = true := by
    rw [decide_eq_true host]
    rfl
  unfold text
  dsimp only
  rw [if_neg scheme, if_pos named]
  rfl

/-- An address with the scheme of a base has it as prefix if and only if host and path do. -/
theorem Base.IsPlain.prefix_text (plain : base.IsPlain) (scheme : url.scheme = base.scheme)
    (host : url.host ≠ []) (free : ∀ c ∈ url.host, endsHost c = false)
    (whole : url.path = [] → url.params = []) :
    base.text <+: url.text ↔ url.host = base.host ∧ base.path <+: slashed url.path := by
  have query := plain.not_mem_text '?' (by decide) (by decide)
  have fragment := plain.not_mem_text '#' (by decide) (by decide)
  have ends : ∀ c ∈ (withPart ';' (slashed url.path) url.params).head?, endsHost c = true := by
    intro c first
    cases shape : url.path with
    | nil =>
      rw [shape, whole shape] at first
      cases first
    | cons d path =>
      obtain ⟨rest, slash⟩ := slashed_cons d path
      rw [shape, slash, withPart] at first
      split at first
      · cases first
        rfl
      · cases first
        rfl
  have scheme_ne := scheme ▸ plain.scheme_ne_nil
  rw [text_eq scheme_ne host, prefix_withPart fragment, prefix_withPart query, scheme,
    slashed_withPart whole, Base.text, List.prefix_append_right_inj, List.cons_prefix_cons,
    List.cons_append, List.cons_append, List.cons_append, List.cons_append,
    List.cons_prefix_cons, List.cons_prefix_cons, Base.path, directory,
    prefix_block (by decide) plain.not_endsHost free ends, ← directory, ← Base.path,
    prefix_withPart (plain.not_mem_path ';' (by decide) (by decide))]
  simp [eq_comm]

/-- The segments of a joined path; after dots the last one is empty. -/
def resolved (base path : Text) : List Text :=
  let segments := segments base path
  let found := followDots [] segments
  if segments.getLast? = some ['.'] || segments.getLast? = some ['.', '.'] then found ++ [[]]
  else found

/-- Segments without the empty one before the leading slash. -/
def afterRoot : List Text → List Text
  | [] :: name :: names => name :: names
  | names => names

theorem joinPath_eq (base path : Text) :
    joinPath base path = match Text.join ['/'] (resolved base path) with
      | [] => ['/']
      | path => path := rfl

theorem followDots_append (found first second : List Text) :
    followDots found (first ++ second) = followDots (followDots found first) second := by
  induction first generalizing found with
  | nil => rfl
  | cons name names ih =>
    simp only [List.cons_append, followDots]
    split
    · exact ih _
    · split
      · exact ih _
      · exact ih _

theorem mem_followDots {found segments : List Text} {name : Text}
    (member : name ∈ followDots found segments) : name ∈ found ∨ name ∈ segments := by
  induction segments generalizing found with
  | nil => exact .inl member
  | cons segment segments ih =>
    unfold followDots at member
    split at member
    · exact (ih member).imp (fun inside => List.dropLast_subset _ inside) (List.mem_cons_of_mem _)
    · split at member
      · exact (ih member).imp_right (List.mem_cons_of_mem _)
      · rcases ih member with inside | inside
        · rcases List.mem_append.mp inside with inside | inside
          · exact .inl inside
          · exact .inr (List.mem_singleton.mp inside ▸ List.mem_cons_self)
        · exact .inr (List.mem_cons_of_mem _ inside)

theorem areSegments_dropEmpty {names : List Text} (whole : AreSegments names) :
    AreSegments (dropEmpty names) := by
  intro name member
  cases names with
  | nil => cases member
  | cons first rest =>
    simp only [dropEmpty] at member
    split at member
    · exact whole name (List.mem_singleton.mp member ▸ List.mem_cons_self)
    · rename_i last found
      rcases List.mem_append.mp member with inside | inside
      · rcases List.mem_cons.mp inside with rfl | inside
        · exact whole name List.mem_cons_self
        · exact whole name (List.mem_cons_of_mem _
            (List.dropLast_subset rest (List.mem_filter.mp inside).1))
      · cases List.mem_singleton.mp inside
        exact whole name (List.mem_cons_of_mem _ (List.mem_of_getLast? found))

theorem areSegments_splitOn (path : Text) : AreSegments (Text.splitOn '/' path) :=
  fun _ member => Text.not_mem_splitOn member

theorem areSegments_segments (base path : Text) : AreSegments (segments base path) := by
  unfold segments
  split
  · exact areSegments_splitOn path
  · apply areSegments_dropEmpty
    intro name member
    rcases List.mem_append.mp member with inside | inside
    · split at inside
      · exact areSegments_splitOn base name inside
      · exact areSegments_splitOn base name (List.dropLast_subset _ inside)
    · exact areSegments_splitOn path name inside

theorem areSegments_resolved (base path : Text) : AreSegments (resolved base path) := by
  have found : AreSegments (followDots [] (segments base path)) := by
    intro name member
    rcases mem_followDots member with inside | inside
    · cases inside
    · exact areSegments_segments base path name inside
  unfold resolved
  dsimp only
  split
  · intro name member
    rcases List.mem_append.mp member with inside | inside
    · exact found name inside
    · cases List.mem_singleton.mp inside
      exact List.not_mem_nil
  · exact found

theorem segments_ne_nil (base path : Text) : segments base path ≠ [] := by
  unfold segments
  split
  · exact Text.splitOn_ne_nil _ _
  · dsimp only
    obtain ⟨first, rest, shape⟩ := List.exists_cons_of_ne_nil
      (List.append_ne_nil_of_right_ne_nil (if (Text.splitOn '/' base).getLast? = some [] then
        Text.splitOn '/' base else (Text.splitOn '/' base).dropLast) (Text.splitOn_ne_nil '/' path))
    rw [shape, dropEmpty]
    split
    · exact List.cons_ne_nil _ _
    · exact List.cons_ne_nil _ _

theorem resolved_ne_nil (base path : Text) : resolved base path ≠ [] := by
  unfold resolved
  dsimp only
  split
  · exact List.append_ne_nil_of_right_ne_nil _ (List.cons_ne_nil _ _)
  · rename_i plain
    rcases List.eq_nil_or_concat (segments base path) with empty | ⟨front, last, shape⟩
    · exact absurd empty (segments_ne_nil base path)
    · rw [shape, List.concat_eq_append] at plain ⊢
      simp only [List.getLast?_concat, Option.some.injEq, Bool.or_eq_true, decide_eq_true_eq,
        not_or] at plain
      rw [followDots_append, followDots, if_neg plain.2, if_neg plain.1]
      exact List.append_ne_nil_of_right_ne_nil _ (List.cons_ne_nil _ _)

theorem slashed_join {names : List Text} (whole : AreSegments names) (nonempty : names ≠ []) :
    slashed (match Text.join ['/'] names with
      | [] => ['/']
      | path => path) = '/' :: Text.join ['/'] (afterRoot names) := by
  obtain ⟨first, rest, rfl⟩ := List.exists_cons_of_ne_nil nonempty
  cases first with
  | nil =>
    cases rest with
    | nil => rfl
    | cons second rest =>
      rw [Text.join_cons_cons]
      rfl
  | cons c first =>
    have other : c ≠ '/' := by
      rintro rfl
      exact whole _ List.mem_cons_self List.mem_cons_self
    have shape : ∃ tail, Text.join ['/'] ((c :: first) :: rest) = c :: tail := by
      cases rest with
      | nil => exact ⟨first, rfl⟩
      | cons second rest =>
        rw [Text.join_cons_cons]
        exact ⟨_, rfl⟩
    obtain ⟨tail, shape⟩ := shape
    simp [afterRoot, shape, slashed, other]

/-- A joined path begins with a directory if and only if its resolved segments do and continue. -/
theorem directory_prefix_joinPath {names : List Text} (whole : AreSegments names)
    (base path : Text) : directory names <+: slashed (joinPath base path) ↔
      names <+: afterRoot (resolved base path) ∧
        names.length < (afterRoot (resolved base path)).length := by
  have inside := areSegments_resolved base path
  have nonempty := resolved_ne_nil base path
  have left : AreSegments (afterRoot (resolved base path)) ∧
      afterRoot (resolved base path) ≠ [] := by
    generalize resolved base path = found at inside nonempty
    unfold afterRoot
    split
    · exact ⟨(List.forall_mem_cons.mp inside).2, List.cons_ne_nil _ _⟩
    · exact ⟨inside, nonempty⟩
  rw [joinPath_eq, slashed_join inside nonempty, directory_prefix whole left.1 left.2]

end TypedCatalog.Url
