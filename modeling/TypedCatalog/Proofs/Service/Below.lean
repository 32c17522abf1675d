import TypedCatalog.Proofs.Service.Join

/-! `LeadsBelow` characterizes the references that `Url.join` resolves to an address with the base
as prefix. -/
namespace TypedCatalog.Url

variable {base : Base} {url : Url} {reference joined path : Text}

/-- The reference has no other scheme, and no other host or none. With a host, its path begins with
that of the base; without one, the segments that remain after resolving dots begin with those of the
base and continue. -/
def LeadsBelow (base : Base) (url : Url) : Prop :=
  url.scheme = base.scheme ∧
    if url.host = [] then
      base.segments <+: afterRoot (resolved base.path url.path) ∧
        base.segments.length < (afterRoot (resolved base.path url.path)).length
    else url.host = base.host ∧ base.path <+: url.path

instance (base : Base) (url : Url) : Decidable (LeadsBelow base url) :=
  inferInstanceAs (Decidable (_ ∧ _))

theorem cutHost_ok (text : Text) : (∀ c ∈ (cutHost text).1, endsHost c = false) ∧
    ((cutHost text).1 ≠ [] → ∀ c ∈ (cutHost text).2.head?, endsHost c = true) := by
  unfold cutHost
  split
  · rename_i rest
    constructor
    · intro c member
      simpa using List.all_eq_true.mp List.all_takeWhile c member
    · intro _ c first
      have stops := List.head?_dropWhile_not (fun c => !endsHost c) rest
      rw [Option.mem_def.mp first] at stops
      simpa using stops
  · constructor
    · intro c member
      cases member
    · intro present
      exact absurd rfl present

/-- A parsed host stops before a separator, and the path after a host starts with a slash. -/
theorem parse_ok {scheme : Text} (parsed : parse scheme reference = .ok url) :
    (∀ c ∈ url.host, endsHost c = false) ∧
      (url.host ≠ [] → url.path = [] ∧ url.params = [] ∨ url.path.head? = some '/') := by
  unfold parse at parsed
  dsimp only at parsed
  generalize (cutScheme? (clean reference)).getD (scheme, clean reference) = parts at parsed
  have ⟨free, ends⟩ := cutHost_ok parts.2
  split at parsed
  · cases parsed
  · cases parsed
    apply And.intro free
    intro present
    dsimp only
    generalize front : (cutAt '?' (cutAt '#' (cutHost parts.2).2).1).1 = raw
    have first : ∀ c ∈ raw.head?, c = '/' := by
      intro c member
      rw [← front] at member
      obtain ⟨member, notQuery⟩ := head_cutAt member
      obtain ⟨member, notFragment⟩ := head_cutAt member
      have stops := ends present c member
      simpa [endsHost, notQuery, notFragment] using stops
    split
    · cases raw with
      | nil => exact .inl ⟨rfl, rfl⟩
      | cons c raw =>
        cases first c rfl
        exact .inr (cutParams_slash raw)
    · cases raw with
      | nil => exact .inl ⟨rfl, rfl⟩
      | cons c raw =>
        cases first c rfl
        exact .inr rfl

/-- A path without separators, controls and a leading slash parses to itself alone. -/
theorem parse_path {scheme : Text} (params : paramSchemes.contains scheme = true)
    (visible : ∀ c ∈ path, 0x20 < c.toNat) (relative : path.head? ≠ some '/')
    (colon : ':' ∉ path) (fragment : '#' ∉ path) (query : '?' ∉ path) (semicolon : ';' ∉ path) :
    parse scheme path = .ok ⟨scheme, [], path, [], [], []⟩ := by
  have named : cutScheme? path = none := by rw [cutScheme?, Text.cut?_absent colon]
  have host : cutHost path = ([], path) := by
    unfold cutHost
    split
    · exact absurd rfl relative
    · rfl
  have check : Host.check [] = .ok () := rfl
  simp only [parse, clean_of_visible visible, named, Option.getD_none, host, check, params, if_true,
    cutAt_absent fragment, cutAt_absent query, cutParams_absent semicolon]

theorem followDots_plain {names : List Text} (found : List Text)
    (plain : ∀ name ∈ names, name ≠ ['.'] ∧ name ≠ ['.', '.']) :
    followDots found names = found ++ names := by
  induction names generalizing found with
  | nil => exact (List.append_nil found).symm
  | cons name names ih =>
    obtain ⟨⟨one, two⟩, plain⟩ := List.forall_mem_cons.mp plain
    rw [followDots, if_neg two, if_neg one, ih _ plain, List.append_assoc, List.singleton_append]

/-- The resolved segments of a relative path extend those of the base. -/
theorem Base.IsPlain.segments (plain : base.IsPlain) (relative : path.head? ≠ some '/')
    {front : List Text} {last : Text} (shape : Text.splitOn '/' path = front ++ [last]) :
    Url.segments base.path path =
      [] :: (base.segments ++ (front.filter (· ≠ []) ++ [last])) := by
  have parts : Text.splitOn '/' base.path = [] :: base.segments ++ [[]] :=
    splitOn_directory plain.areSegments
  have ends : (Text.splitOn '/' base.path).getLast? = some [] := by
    rw [parts, List.getLast?_concat]
  have kept : base.segments.filter (· ≠ []) = base.segments :=
    List.filter_eq_self.mpr fun name member => by simpa using (plain.names name member).1
  have whole : ([] :: base.segments ++ [[]]) ++ (front ++ [last]) =
      [] :: ((base.segments ++ [[]] ++ front) ++ [last]) := by simp
  simp only [Url.segments, if_neg relative, if_pos ends]
  rw [parts, shape, whole, dropEmpty, List.getLast?_concat]
  dsimp only
  rw [List.dropLast_concat, List.filter_append, List.filter_append, kept]
  simp

/-- Names other than dots are appended to the segments of the base. -/
theorem Base.IsPlain.resolved (plain : base.IsPlain) (relative : path.head? ≠ some '/')
    {front : List Text} {last : Text} (shape : Text.splitOn '/' path = front ++ [last])
    (names : ∀ name ∈ front ++ [last], name ≠ ['.'] ∧ name ≠ ['.', '.']) :
    Url.resolved base.path path =
      [] :: (base.segments ++ (front.filter (· ≠ []) ++ [last])) := by
  have all : ∀ name ∈ [] :: (base.segments ++ (front.filter (· ≠ []) ++ [last])),
      name ≠ ['.'] ∧ name ≠ ['.', '.'] := by
    intro name member
    rcases List.mem_cons.mp member with rfl | member
    · decide
    · rcases List.mem_append.mp member with member | member
      · exact (plain.names name member).2
      · rcases List.mem_append.mp member with member | member
        · exact names name (List.mem_append_left _ (List.mem_filter.mp member).1)
        · exact names name (List.mem_append_right _ member)
  have ⟨one, two⟩ := names last (List.mem_append_right _ (List.mem_singleton.mpr rfl))
  have ends : ([] :: (base.segments ++ (front.filter (· ≠ []) ++ [last]))).getLast? =
      some last := by
    rw [← List.append_assoc, ← List.cons_append, List.getLast?_concat]
  simp only [Url.resolved, plain.segments relative shape, followDots_plain [] all, ends]
  rw [if_neg (by simp [one, two]), List.nil_append]

theorem Base.IsPlain.leadsBelow_names (plain : base.IsPlain) (scheme : url.scheme = base.scheme)
    (host : url.host = []) (relative : url.path.head? ≠ some '/')
    (names : ∀ name ∈ Text.splitOn '/' url.path, name ≠ ['.'] ∧ name ≠ ['.', '.']) :
    LeadsBelow base url := by
  rcases List.eq_nil_or_concat (Text.splitOn '/' url.path) with empty | ⟨front, last, shape⟩
  · exact absurd empty (Text.splitOn_ne_nil _ _)
  · rw [List.concat_eq_append] at shape
    have left := plain.resolved relative shape (shape ▸ names)
    obtain ⟨first, rest, added⟩ := List.exists_cons_of_ne_nil
      (List.append_ne_nil_of_right_ne_nil (base.segments ++ front.filter (· ≠ []))
        (List.cons_ne_nil last []))
    rw [List.append_assoc] at added
    rw [added] at left
    refine ⟨scheme, ?_⟩
    rw [if_pos host, left, afterRoot, ← added]
    exact ⟨List.prefix_append _ _, by simp⟩

theorem Base.IsPlain.text_ne_nil (plain : base.IsPlain) : base.text ≠ [] :=
  List.append_ne_nil_of_left_ne_nil plain.scheme_ne_nil _

/-- A reference with the base as prefix has its scheme. -/
theorem Base.IsPlain.scheme_of_prefix (plain : base.IsPlain) (begins : base.text <+: reference)
    (parsed : Url.parse base.scheme reference = .ok url) : url.scheme = base.scheme := by
  obtain ⟨rest, rfl⟩ := begins
  have named : cutScheme? (Url.clean (base.text ++ rest)) =
      some (base.scheme, '/' :: '/' :: base.host ++ base.path ++
        rest.filter fun c => c ≠ '\t' && c ≠ '\r' && c ≠ '\n') := by
    rw [plain.clean, Base.text, List.append_assoc, List.cons_append, plain.cutScheme]
  unfold Url.parse at parsed
  dsimp only at parsed
  rw [named] at parsed
  split at parsed
  · cases parsed
  · cases parsed
    rfl

/-- The results of `join`: the base for an empty reference, an absolute reference, one with a host,
one with a query alone, or a resolved path. -/
inductive Led (base : Base) (reference : Text) : Text → Prop where
  | same : reference = [] → Led base reference base.text
  | away {url : Url} : Url.parse base.scheme reference = .ok url → url.scheme ≠ base.scheme →
      Led base reference reference
  | host {url : Url} : Url.parse base.scheme reference = .ok url → url.scheme = base.scheme →
      url.host ≠ [] → Led base reference url.text
  | here {url : Url} (query : Text) : Url.parse base.scheme reference = .ok url →
      url.scheme = base.scheme → url.host = [] → url.path = [] →
      Led base reference
        { url with host := base.host, path := base.path, params := [], query := query }.text
  | onward {url : Url} : Url.parse base.scheme reference = .ok url → url.scheme = base.scheme →
      url.host = [] →
      Led base reference
        { url with host := base.host, path := joinPath base.path url.path }.text

theorem Base.IsPlain.led (plain : base.IsPlain)
    (leads : Url.join base.text reference = .ok joined) : Led base reference joined := by
  have ⟨relativeScheme, hostScheme, _⟩ := plain.schemes
  unfold join at leads
  rw [if_neg plain.text_ne_nil] at leads
  split at leads
  · rename_i empty
    cases leads
    exact .same empty
  · rw [plain.parse] at leads
    dsimp only at leads
    split at leads
    · cases leads
    · rename_i url parsed
      by_cases scheme : url.scheme = base.scheme
      · have stays : (decide (url.scheme ≠ base.scheme) ||
            !relativeSchemes.contains url.scheme) = false := by
          rw [scheme, relativeScheme]
          simp
        have hosted : hostSchemes.contains url.scheme = true := scheme ▸ hostScheme
        simp only [stays, hosted, Bool.false_eq_true, if_false, if_true, Bool.true_and] at leads
        split at leads
        · rename_i present
          cases leads
          exact .host parsed scheme (of_decide_eq_true present)
        · rename_i absent
          have hostless : url.host = [] := by simpa using absent
          split at leads
          · rename_i empty
            cases leads
            exact .here _ parsed scheme hostless (by simpa using (Bool.and_eq_true_iff.mp empty).1)
          · cases leads
            exact .onward parsed scheme hostless
      · have away : (decide (url.scheme ≠ base.scheme) ||
            !relativeSchemes.contains url.scheme) = true := by
          rw [decide_eq_true scheme]
          rfl
        rw [if_pos away] at leads
        cases leads
        exact .away parsed scheme

/-- A reference without host and path leads below every plain base. -/
theorem Base.IsPlain.leadsBelow_empty (plain : base.IsPlain) (scheme : url.scheme = base.scheme)
    (host : url.host = []) (path : url.path = []) : LeadsBelow base url := by
  have names : ∀ name ∈ Text.splitOn '/' [], name ≠ ['.'] ∧ name ≠ ['.', '.'] := by decide
  apply plain.leadsBelow_names scheme host
  · simp [path]
  · rwa [path]

theorem Base.IsPlain.prefix_host (plain : base.IsPlain)
    (parsed : Url.parse base.scheme reference = .ok url) (scheme : url.scheme = base.scheme)
    (present : url.host ≠ []) : base.text <+: url.text ↔ LeadsBelow base url := by
  obtain ⟨free, behind⟩ := parse_ok parsed
  have whole : url.path = [] → url.params = [] := by
    intro empty
    rcases behind present with ⟨-, hostless⟩ | slash
    · exact hostless
    · rw [empty] at slash
      cases slash
  have path : slashed url.path = url.path := by
    rcases behind present with ⟨empty, -⟩ | slash
    · rw [empty]
      rfl
    · simp [slashed, slash]
  rw [plain.prefix_text scheme present free whole, LeadsBelow, if_neg present, path]
  exact (and_iff_right scheme).symm

theorem Base.IsPlain.prefix_here (plain : base.IsPlain) (scheme : url.scheme = base.scheme)
    (query : Text) : base.text <+:
      ({ url with host := base.host, path := base.path, params := [], query } : Url).text := by
  have begins : base.text <+:
      ({ url with host := base.host, path := base.path, params := [], query } : Url).text ↔
        base.host = base.host ∧ base.path <+: slashed base.path :=
    plain.prefix_text scheme plain.host plain.not_endsHost fun _ => rfl
  exact begins.mpr ⟨rfl, List.prefix_refl _⟩

theorem Base.IsPlain.prefix_onward (plain : base.IsPlain) (scheme : url.scheme = base.scheme)
    (hostless : url.host = []) :
    base.text <+: ({ url with host := base.host, path := joinPath base.path url.path } : Url).text ↔
      LeadsBelow base url := by
  have present : joinPath base.path url.path ≠ [] := by
    rw [joinPath_eq]
    split
    · exact List.cons_ne_nil _ _
    · assumption
  have begins : base.text <+:
      ({ url with host := base.host, path := joinPath base.path url.path } : Url).text ↔
        base.host = base.host ∧ base.path <+: slashed (joinPath base.path url.path) :=
    plain.prefix_text scheme plain.host plain.not_endsHost fun empty => absurd empty present
  rw [begins, LeadsBelow, if_pos hostless, Base.path, directory_prefix_joinPath plain.areSegments]
  constructor
  · intro below
    exact ⟨scheme, below.2⟩
  · intro below
    exact ⟨rfl, below.2⟩

/-- `join` returns an address with the base as prefix if and only if the reference `LeadsBelow`
it. -/
theorem Base.IsPlain.join_iff (plain : base.IsPlain)
    (leads : Url.join base.text reference = .ok joined) :
    base.text <+: joined ↔
      ∃ url, Url.parse base.scheme reference = .ok url ∧ LeadsBelow base url := by
  have unique {url : Url} (parsed : Url.parse base.scheme reference = .ok url) :
      (∃ found, Url.parse base.scheme reference = .ok found ∧ LeadsBelow base found) ↔
        LeadsBelow base url := by simp [parsed]
  cases plain.led leads with
  | same empty =>
    subst empty
    have parsed : Url.parse base.scheme [] = .ok ⟨base.scheme, [], [], [], [], []⟩ := by
      unfold Url.parse
      simp [Url.clean, cutScheme?, Text.cut?, cutHost, Host.check, cutAt, cutParams]
      rfl
    rw [unique parsed]
    exact iff_of_true (List.prefix_refl _) (plain.leadsBelow_empty rfl rfl rfl)
  | away parsed other =>
    rw [unique parsed]
    apply iff_of_false
    · intro begins
      exact other (plain.scheme_of_prefix begins parsed)
    · intro below
      exact other below.1
  | host parsed scheme present =>
    rw [unique parsed]
    exact plain.prefix_host parsed scheme present
  | here query parsed scheme none empty =>
    rw [unique parsed]
    exact iff_of_true (plain.prefix_here scheme query) (plain.leadsBelow_empty scheme none empty)
  | onward parsed scheme none =>
    rw [unique parsed]
    exact plain.prefix_onward scheme none

end TypedCatalog.Url
