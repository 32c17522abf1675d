import TypedCatalog.Proofs.Declaration.ReadBack
import TypedCatalog.Proofs.Name

/-! Round trip of generated modules. `readModule` recovers from the body of `schemaModule` exactly
the declarations of its sections without comments, for arbitrary names, types and values. -/
namespace TypedCatalog.Declaration

open Catalog

/-- Iterated `readDeclaration`: the text decodes to this list, and nothing but skipped text
remains. -/
inductive Lists : Text → List Declaration → Prop where
  | done {text : Text} : skip .blank text = some [] → Lists text []
  | next {text rest : Text} {declaration : Declaration} {declarations : List Declaration} :
      declaration.IsReadable → skip .blank text = some (declaration.text ++ rest) →
      Lists rest declarations → Lists text (declaration :: declarations)

theorem skip_length {gap : Gap} {text rest : Text} (skipped : skip gap text = some rest) :
    rest.length ≤ text.length := by
  induction gap, text using skip.induct with
  | case1 text ih | case2 text ih | case7 text ih =>
    simp only [skip] at skipped
    have bound := ih skipped
    simp only [List.length_cons]
    omega
  | case3 c text line block space ih =>
    rw [skip.eq_3 c text line block, if_pos space] at skipped
    have bound := ih skipped
    simp only [List.length_cons]
    omega
  | case4 c text line block token =>
    rw [skip.eq_3 c text line block, if_neg token] at skipped
    simp [← Option.some.inj skipped]
  | case5 c text ends ih =>
    rw [skip.eq_4, if_pos ends] at skipped
    have bound := ih skipped
    simp only [List.length_cons]
    omega
  | case6 c text stays ih =>
    rw [skip.eq_4, if_neg stays] at skipped
    have bound := ih skipped
    simp only [List.length_cons]
    omega
  | case8 c text other ih =>
    rw [skip.eq_6 c text other] at skipped
    have bound := ih skipped
    simp only [List.length_cons]
    omega
  | case9 | case10 => simp_all [skip]
  | case11 => simp [skip] at skipped

theorem skip_newLine (rest : Text) : skip .blank ('\n' :: rest) = skip .blank rest := rfl

theorem startsToken_text (declaration : Declaration) : StartsToken declaration.text := by
  have first : Text.isAlnum 'e' = true := rfl
  cases declaration <;> exact startsToken_cons first (by decide) _

theorem readDeclarations_congr {text rest : Text} (same : skip .blank text = skip .blank rest)
    (fuel : Nat) : readDeclarations fuel text = readDeclarations fuel rest := by
  cases fuel with
  | zero => rfl
  | succ fuel => simp only [readDeclarations, same]

namespace Lists

variable {text rest : Text} {declarations more : List Declaration}

/-- `Lists` depends on a text only through `skip .blank`. -/
theorem congr (same : skip .blank text = skip .blank rest) (lists : Lists rest declarations) :
    Lists text declarations := by
  cases lists with
  | done ended => exact .done (same.trans ended)
  | next readable start lists => exact .next readable (same.trans start) lists

theorem length_le (lists : Lists text declarations) : declarations.length ≤ text.length := by
  induction lists with
  | done _ => simp
  | @next text rest declaration declarations _ start _ ih =>
    have bound := skip_length start
    obtain ⟨c, tail, shape, _⟩ := startsToken_text declaration
    simp only [shape, List.length_append, List.length_cons] at bound ⊢
    omega

theorem readDeclarations_eq (lists : Lists text declarations) {fuel : Nat}
    (enough : declarations.length < fuel) :
    readDeclarations fuel text = some (declarations.map bare) := by
  induction lists generalizing fuel with
  | done ended =>
    obtain ⟨fuel, rfl⟩ := Nat.exists_eq_succ_of_ne_zero (Nat.ne_of_gt enough)
    simp only [readDeclarations, ended, List.map_nil]
  | @next text rest declaration declarations readable start lists ih =>
    obtain ⟨fuel, rfl⟩ := Nat.exists_eq_succ_of_ne_zero (Nat.ne_zero_of_lt enough)
    have found := readDeclaration_text readable rest
    have others : readDeclarations fuel ('\n' :: rest) = some (declarations.map bare) :=
      (readDeclarations_congr (skip_newLine rest) fuel).trans (ih (by simpa using enough))
    obtain ⟨c, tail, shape, _⟩ := startsToken_text declaration
    rw [shape] at start found
    simp only [readDeclarations, start, List.cons_append] at found ⊢
    simp only [found, others, bind, Option.bind, pure, List.map_cons]

theorem readModule_eq (lists : Lists text declarations) :
    readModule text = some (declarations.map bare) :=
  lists.readDeclarations_eq (Nat.lt_succ_of_le lists.length_le)

/-- The empty line that `joined` puts between two declarations is skipped. -/
theorem joined_append (readable : ∀ declaration ∈ declarations, declaration.IsReadable)
    (lists : Lists rest more) :
    Lists (joined (declarations.map Declaration.text) ++ rest) (declarations ++ more) := by
  induction declarations with
  | nil => exact lists
  | cons declaration declarations ih =>
    have others := ih fun other member => readable other (by simp [member])
    have first (rest : Text) := ((startsToken_text declaration).append rest).skip_eq
    cases declarations with
    | nil => exact .next (readable declaration (by simp)) (first rest) lists
    | cons second declarations =>
      simp only [joined, List.map_cons, Text.join, List.append_assoc] at others ⊢
      exact .next (readable declaration (by simp)) (first _) (others.congr (skip_newLine _))

end Lists

/-- The title contains no line end, and every declaration satisfies `IsReadable`. -/
structure Section.IsReadable (part : Section) : Prop where
  titled : ∀ c ∈ part.title, endsLine c = false
  readable : ∀ declaration ∈ part.declarations, declaration.IsReadable

theorem Lists.section_append {part : Section} (readable : part.IsReadable) {rest : Text}
    {more : List Declaration} (lists : Lists rest more) :
    Lists (part.text ++ rest) (part.declarations ++ more) := by
  refine (lists.joined_append readable.readable).congr ?_
  have shape : part.text ++ rest = '\n' :: '/' :: '/' :: ((' ' :: part.title) ++
      '\n' :: (joined (part.declarations.map text) ++ rest)) := by
    simp [Section.text, Section.body]
  rw [shape]
  apply skip_line
  intro c member
  rcases List.mem_cons.mp member with rfl | member
  · rfl
  · exact readable.titled c member

theorem Lists.sections {parts : List Section} (readable : ∀ part ∈ parts, part.IsReadable) :
    Lists (parts.flatMap Section.text) (parts.flatMap Section.declarations) := by
  induction parts with
  | nil => exact .done rfl
  | cons part parts ih =>
    have others := ih fun other member => readable other (by simp [member])
    exact others.section_append (readable part (by simp))

section SectionOf

variable {α : Type} (title : Text) (group : Register α) (declare : α → List Declaration)

theorem isReadable_sectionOf (titled : title.all (fun c => !endsLine c) = true)
    (readable : ∀ record, ∀ declaration ∈ declare record, declaration.IsReadable) :
    ∀ part ∈ sectionOf title group declare, part.IsReadable := by
  intro part member
  unfold sectionOf at member
  split at member
  · contradiction
  · obtain rfl := List.mem_singleton.mp member
    constructor
    · intro c member
      simpa using List.all_eq_true.mp titled c member
    · intro declaration member
      obtain ⟨record, _, member⟩ := List.mem_flatMap.mp member
      exact readable record declaration member

theorem declarations_sectionOf :
    (sectionOf title group declare).flatMap Section.declarations =
      group.records.flatMap declare := by
  unfold sectionOf
  cases group <;> simp [Register.records]

end SectionOf

theorem isName_pascal (name : Text) : IsName (Name.pascal name) := Name.isAlnum_pascal name

theorem IsName.append {name suffix : Text} (named : IsName name)
    (inside : suffix.all Text.isAlnum = true) : IsName (name ++ suffix) := by
  intro c member
  rcases List.mem_append.mp member with member | member
  · exact named c member
  · exact List.all_eq_true.mp inside c member

theorem readsAsType_declared (type : Text) : ReadsAsType (SqlType.declared type) :=
  readsAsType_plain (isPlainType_declared type)

theorem readsAsType_pagination : ∀ property ∈ pagination, ReadsAsType property.type := by
  intro property member
  simp only [pagination, List.mem_cons, List.not_mem_nil, or_false] at member
  rcases member with rfl | rfl | rfl | rfl
  · exact readsAsType_plain (by decide)
  · exact readsAsType_plain (by decide)
  · exact readsAsType_plain (by decide)
  -- the only type with literals in it
  · exact fun rest => rfl

/-- Interfaces whose properties are computed from a list of records are readable if each property
is. -/
theorem isReadable_interface {α : Type} {name : Text} (named : IsName name) {records : List α}
    {property : α → Property} (typed : ∀ record, ReadsAsType (property record).type) :
    (interface name (records.map property)).IsReadable := by
  constructor
  · exact named
  · intro found member
    obtain ⟨record, _, rfl⟩ := List.mem_map.mp member
    exact typed record

theorem isReadable_ofTable (table : Relation) : (ofTable table).IsReadable :=
  isReadable_interface (isName_pascal _) fun column => readsAsType_declared column.type

theorem isReadable_ofView (view : Relation) : (ofView view).IsReadable :=
  isReadable_interface ((isName_pascal _).append rfl) fun column => readsAsType_declared column.type

theorem isReadable_ofQuery (table : Relation) : (ofQuery table).IsReadable := by
  constructor
  · exact (isName_pascal _).append rfl
  · intro property member
    rcases List.mem_append.mp member with member | member
    · exact readsAsType_pagination property member
    · obtain ⟨column, _, rfl⟩ := List.mem_map.mp member
      exact readsAsType_plain (isPlainType_orNull (isPlainType_declared column.type))

theorem isReadable_ofEnumeration (held : Enumeration) : (ofEnumeration held).IsReadable := by
  constructor
  · exact isName_pascal _
  · intro member found
    obtain ⟨value, _, rfl⟩ := List.mem_map.mp found
    constructor
    · exact Name.enumMember_ne_nil value
    · intro c inside
      have holds := Name.isMemberChar_enumMember value c inside
      simp only [Name.isMemberChar, Bool.or_eq_true] at holds
      rcases holds with alnum | underscore
      · simp [Name.isIdentifierChar, alnum]
      · simp [Name.isIdentifierChar, underscore]

theorem isReadable_parametersOf {base : Text} (named : IsName base) (routine : Routine) :
    ∀ declaration ∈ parametersOf base routine, declaration.IsReadable := by
  intro declaration member
  unfold parametersOf at member
  split at member
  · contradiction
  · obtain rfl := List.mem_singleton.mp member
    exact isReadable_interface (named.append rfl)
      fun parameter => readsAsType_declared parameter.type

theorem isReadable_resultOf {base : Text} (named : IsName base) (routine : Routine) :
    ∀ declaration ∈ resultOf base routine, declaration.IsReadable := by
  intro declaration member
  have result : IsName (base ++ "Result".toList) := named.append rfl
  have row : IsName (base ++ "ResultRow".toList) := named.append rfl
  -- a row type is a name, which may be empty only in front of its suffix
  have rowType : isPlainType (base ++ "ResultRow".toList) = true := isPlainType_name row (by simp)
  unfold resultOf at member
  split at member
  · rename_i column columns _
    simp only [List.mem_cons, List.not_mem_nil, or_false] at member
    rcases member with rfl | rfl
    · exact isReadable_interface row fun column => readsAsType_declared column.type
    · refine ⟨result, readsAsType_plain ?_⟩
      split
      · exact isPlainType_arrayOf rowType
      · exact isPlainType_orNull rowType
  · split at member
    · rename_i type _
      obtain rfl := List.mem_singleton.mp member
      refine ⟨result, readsAsType_plain ?_⟩
      split
      · exact isPlainType_arrayOf (isPlainType_declared type)
      · exact isPlainType_orNull (isPlainType_declared type)
    · split at member
      · obtain rfl := List.mem_singleton.mp member
        exact ⟨result, readsAsType_plain (by decide)⟩
      · obtain rfl := List.mem_singleton.mp member
        exact isReadable_interface result fun parameter => readsAsType_declared parameter.type

theorem isReadable_ofRoutine {suffix : Text} (inside : suffix.all Text.isAlnum = true)
    (routine : Routine) : ∀ declaration ∈ ofRoutine suffix routine, declaration.IsReadable := by
  intro declaration member
  have named : IsName (Name.pascal routine.name ++ suffix) := (isName_pascal _).append inside
  rcases List.mem_append.mp member with member | member
  · exact isReadable_parametersOf named routine declaration member
  · exact isReadable_resultOf named routine declaration member

theorem isReadable_sections (schema : Schema) : ∀ part ∈ sections schema, part.IsReadable := by
  intro part member
  simp only [sections, List.mem_append] at member
  rcases member with (((member | member) | member) | member) | member
  · apply isReadable_sectionOf _ _ _ (by decide) _ part member
    intro table
    simpa using ⟨isReadable_ofTable table, isReadable_ofQuery table⟩
  · apply isReadable_sectionOf _ _ _ (by decide) _ part member
    intro view
    simpa using isReadable_ofView view
  · apply isReadable_sectionOf _ _ _ (by decide) _ part member
    intro held
    simpa using isReadable_ofEnumeration held
  · exact isReadable_sectionOf _ _ _ (by decide) (isReadable_ofRoutine rfl) part member
  · exact isReadable_sectionOf _ _ _ (by decide) (isReadable_ofRoutine rfl) part member

theorem bare_interface {α : Type} (name : Text) (records : List α) (property : α → Property) :
    bare (interface name (records.map property)) =
      interface name (records.map fun record => bareProperty (property record)) := by
  simp only [bare, List.map_map, Function.comp_def]

theorem bare_parametersOf (base : Text) (routine : Routine) :
    (parametersOf base routine).map bare = parametersOf base routine := by
  unfold parametersOf
  split
  · rfl
  · rw [List.map_singleton, bare_interface]
    rfl

theorem bare_resultOf (base : Text) (routine : Routine) :
    (resultOf base routine).map bare = resultOf base routine := by
  unfold resultOf
  split
  · rw [List.map_cons, bare_interface]
    rfl
  · split
    · rfl
    · split
      · rfl
      · rw [List.map_singleton, bare_interface]
        rfl

theorem bare_ofRoutine (suffix : Text) (routine : Routine) :
    (ofRoutine suffix routine).map bare = ofRoutine suffix routine := by
  simp only [ofRoutine, List.map_append, bare_parametersOf, bare_resultOf]

theorem bare_ofTable (table : Relation) :
    bare (ofTable table) =
      interface (Name.pascal table.name) (table.columns.map columnProperty) :=
  bare_interface _ _ _

theorem bare_ofQuery (table : Relation) : bare (ofQuery table) = ofQuery table := by
  simp only [ofQuery, bare, List.map_append, List.map_map]
  rfl

theorem bare_ofView (view : Relation) : bare (ofView view) = ofView view := bare_interface _ _ _

/-- The declarations of `sections`, with all property comments erased by `bare`. -/
def bareDeclarations (schema : Schema) : List Declaration :=
  ((sections schema).flatMap Section.declarations).map bare

theorem bareDeclarations_eq (schema : Schema) : bareDeclarations schema =
    (schema.tables.records.flatMap fun table => [bare (ofTable table), ofQuery table]) ++
    schema.views.records.map ofView ++ schema.enums.records.map ofEnumeration ++
    schema.functions.records.flatMap (ofRoutine []) ++
    schema.procedures.records.flatMap (ofRoutine procedureSuffix) := by
  simp only [bareDeclarations, sections, List.flatMap_append, declarations_sectionOf,
    List.map_append, List.map_flatMap, List.map_cons, List.map_nil, bare_ofQuery, bare_ofView,
    bare_ofRoutine]
  rw [← List.map_eq_flatMap, ← List.map_eq_flatMap]
  rfl

/-- `readModule` of the sections of a schema is `bareDeclarations`. -/
theorem readModule_sections (schema : Schema) :
    readModule ((sections schema).flatMap Section.text) = some (bareDeclarations schema) :=
  (Lists.sections (isReadable_sections schema)).readModule_eq

end TypedCatalog.Declaration
