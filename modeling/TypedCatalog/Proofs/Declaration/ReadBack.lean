import TypedCatalog.Proofs.Declaration.Tokens

/-! Round trip of one declaration: `readDeclaration` recovers it from its text without its comments,
for arbitrary keys, remarks and values. -/
namespace TypedCatalog.Declaration

/-- The first character belongs to a token other than a closing brace. -/
def StartsToken (text : Text) : Prop :=
  ∃ c rest, text = c :: rest ∧ c ≠ '/' ∧ Json.isSpace c = false ∧ c ≠ '\x7d'

theorem startsToken_cons {holds : Char → Bool} {c : Char} (is : holds c = true)
    (fails : ['/', ' ', '\t', '\n', '\r', '\x7d'].all (fun d => !holds d) = true) (rest : Text) :
    StartsToken (c :: rest) := by
  simp only [List.all_cons, List.all_nil, Bool.and_true, Bool.and_eq_true, Bool.not_eq_true'] at fails
  obtain ⟨slash, blank, tab, newLine, carriage, brace⟩ := fails
  refine ⟨c, rest, rfl, Text.ne_of_holds is slash, ?_, Text.ne_of_holds is brace⟩
  simp [Json.isSpace, Text.ne_of_holds is blank, Text.ne_of_holds is tab, Text.ne_of_holds is newLine,
    Text.ne_of_holds is carriage]

theorem StartsToken.append {text : Text} (token : StartsToken text) (more : Text) :
    StartsToken (text ++ more) := by
  obtain ⟨c, rest, rfl, start⟩ := token
  exact ⟨c, rest ++ more, rfl, start⟩

theorem StartsToken.skip_eq {text : Text} (token : StartsToken text) :
    skip .blank text = some text := by
  obtain ⟨c, rest, rfl, slash, space, _⟩ := token
  exact skip_token slash space rest

def isTypeChar (c : Char) : Bool :=
  Text.isAlnum c || c = '<' || c = '>' || c = ',' || c = '[' || c = ']' || c = '|' || c = ' '

/-- The type starts with an alphanumeric character and contains no semicolon, quote or comment
mark. -/
def isPlainType : Text → Bool
  | [] => false
  | c :: rest => Text.isAlnum c && rest.all isTypeChar

/-- `takeType` recovers the type before a semicolon. -/
def ReadsAsType (type : Text) : Prop :=
  ∀ rest, readType (' ' :: (type ++ ';' :: rest)) = some (type, rest)

theorem takeType_plain {type : Text} (inside : ∀ c ∈ type, isTypeChar c = true) (rest : Text) :
    takeType false (type ++ ';' :: rest) = some (type, rest) := by
  induction type with
  | nil => rfl
  | cons c type ih =>
    have plain := inside c (by simp)
    have semicolon : c ≠ ';' := Text.ne_of_holds plain (by decide)
    have slash : c ≠ '/' := Text.ne_of_holds plain (by decide)
    have quote : c ≠ '"' := Text.ne_of_holds plain (by decide)
    rw [List.cons_append, takeType.eq_6 _ _ semicolon slash, decide_eq_false quote,
      ih fun d member => inside d (by simp [member])]
    rfl

theorem readsAsType_plain {type : Text} (plain : isPlainType type = true) : ReadsAsType type := by
  intro rest
  cases type with
  | nil => simp [isPlainType] at plain
  | cons c type =>
    simp only [isPlainType, Bool.and_eq_true, List.all_eq_true] at plain
    obtain ⟨first, inside⟩ := plain
    have start : skip .blank (' ' :: (c :: type ++ ';' :: rest)) = some (c :: type ++ ';' :: rest) :=
      (startsToken_cons first (by decide) (type ++ ';' :: rest)).skip_eq
    rw [readType, start, Option.bind_some, takeType_plain]
    intro d member
    rcases List.mem_cons.mp member with rfl | member
    · simp [isTypeChar, first]
    · exact inside d member

theorem isPlainType_append {type more : Text} (plain : isPlainType type = true)
    (inside : more.all isTypeChar = true) : isPlainType (type ++ more) = true := by
  cases type with
  | nil => simp [isPlainType] at plain
  | cons c type =>
    simp only [isPlainType, Bool.and_eq_true] at plain
    simp only [List.cons_append, isPlainType, List.all_append, plain, inside, Bool.and_self]

theorem isPlainType_name {name : Text} (inside : ∀ c ∈ name, Text.isAlnum c = true)
    (nonempty : name ≠ []) : isPlainType name = true := by
  obtain ⟨c, rest, rfl⟩ := List.exists_cons_of_ne_nil nonempty
  have rest_inside : ∀ d ∈ rest, isTypeChar d = true := by
    intro d member
    simp [isTypeChar, inside d (by simp [member])]
  simp only [isPlainType, inside c (by simp), List.all_eq_true.mpr rest_inside, Bool.and_self]

theorem isPlainType_arrayOf {type : Text} (plain : isPlainType type = true) :
    isPlainType (SqlType.arrayOf type) = true := isPlainType_append plain (by decide)

theorem isPlainType_orNull {type : Text} (plain : isPlainType type = true) :
    isPlainType (orNull type) = true := isPlainType_append plain (by decide)

theorem isPlainType_nested {type : Text} (depth : Nat) (plain : isPlainType type = true) :
    isPlainType (SqlType.nested depth type) = true := by
  induction depth generalizing type with
  | zero => exact plain
  | succ depth ih => exact ih (isPlainType_arrayOf plain)

theorem row_mem_rows (name : Text) : SqlType.row name ∈ SqlType.rows := by
  unfold SqlType.row
  cases found : SqlType.rows.find? fun row => row.pattern.holds name with
  | none => simp [SqlType.rows]
  | some row => exact List.mem_of_find?_eq_some found

theorem isPlainType_rows : ∀ row ∈ SqlType.rows, isPlainType row.declared = true := by decide

/-- Declared types are plain, for every catalog type. -/
theorem isPlainType_declared (name : Text) : isPlainType (SqlType.declared name) = true :=
  isPlainType_nested _ (isPlainType_rows _ (row_mem_rows _))

/-- A property without its comment. -/
def bareProperty (property : Property) : Property := { property with comment := [] }

def propertyText (property : Property) : Text := endLines property.lines

/-- The text of a property from its key on, after its comment. -/
def propertyTokens (property : Property) : Text :=
  Name.propertyKey property.name ++ ((if property.isOptional then ['?'] else []) ++
    ':' :: ' ' :: (property.type ++ [';']))

theorem startsToken_propertyKey (name : Text) : StartsToken (Name.propertyKey name) := by
  unfold Name.propertyKey
  split
  · rename_i identifier
    obtain ⟨c, rest, rfl, inside⟩ := isIdentifier_cons identifier
    exact startsToken_cons (inside c (by simp)) (by decide) rest
  · exact ⟨'"', _, rfl, by decide, by decide, by decide⟩

theorem startsToken_property (property : Property) : StartsToken (propertyTokens property) :=
  (startsToken_propertyKey property.name).append _

theorem skip_propertyText (property : Property) (rest : Text) :
    skip .blank (propertyText property ++ rest) =
      some (propertyTokens property ++ '\n' :: rest) := by
  have split : propertyText property ++ rest = endLines property.commentLines ++
      (' ' :: ' ' :: (propertyTokens property ++ '\n' :: rest)) := by
    simp [propertyText, propertyTokens, Property.lines, Property.line, endLines]
  rw [split, skip_commentLines]
  exact ((startsToken_property property).append _).skip_eq

theorem readProperty_tokens {property : Property} (typed : ReadsAsType property.type)
    (rest : Text) :
    readProperty (propertyTokens property ++ rest) = some (bareProperty property, rest) := by
  have start := ((startsToken_property property).append rest).skip_eq
  obtain ⟨name, type, isOptional, comment⟩ := property
  have colon (rest : Text) : readMark ':' (':' :: rest) = some rest := readMark_eq rfl
  have read : readType (' ' :: (type ++ ';' :: rest)) = some (type, rest) := typed rest
  cases isOptional with
  | false =>
    simp only [propertyTokens, Bool.false_eq_true, if_false, List.append_assoc, List.cons_append,
      List.nil_append] at start ⊢
    have key := readKey_eq start (by rintro c ⟨⟩; rfl)
    have optional (rest : Text) : readOptional (':' :: rest) = some (false, ':' :: rest) := rfl
    simp only [readProperty, key, optional, colon, read, bareProperty, bind, Option.bind, pure]
  | true =>
    simp only [propertyTokens, if_true, List.append_assoc, List.cons_append,
      List.nil_append] at start ⊢
    have key := readKey_eq start (by rintro c ⟨⟩; rfl)
    have optional (rest : Text) : readOptional ('?' :: rest) = some (true, rest) := rfl
    simp only [readProperty, key, optional, colon, read, bareProperty, bind, Option.bind, pure]

/-- Identifier characters only, not empty; the first may be a digit. -/
def IsMemberName (name : Text) : Prop := name ≠ [] ∧ ∀ c ∈ name, Name.isIdentifierChar c = true

def memberTokens (member : Text × Text) : Text :=
  member.1 ++ ' ' :: '=' :: ' ' :: (Json.literal member.2 ++ [','])

def memberText (member : Text × Text) : Text := endLines [memberLine member]

theorem startsToken_member {member : Text × Text} (named : IsMemberName member.1) :
    StartsToken (memberTokens member) := by
  obtain ⟨nonempty, inside⟩ := named
  obtain ⟨c, name, shape⟩ := List.exists_cons_of_ne_nil nonempty
  have first := inside c (by simp [shape])
  simp only [memberTokens, shape, List.cons_append]
  exact startsToken_cons first (by decide) _

theorem skip_memberText {member : Text × Text} (named : IsMemberName member.1) (rest : Text) :
    skip .blank (memberText member ++ rest) = some (memberTokens member ++ '\n' :: rest) := by
  have split : memberText member ++ rest =
      ' ' :: ' ' :: (memberTokens member ++ '\n' :: rest) := by
    simp [memberText, memberLine, memberTokens, endLines]
  rw [split]
  exact ((startsToken_member named).append _).skip_eq

theorem readMember_tokens {member : Text × Text} (named : IsMemberName member.1) (rest : Text) :
    readMember (memberTokens member ++ rest) = some (member, rest) := by
  have start := ((startsToken_member named).append rest).skip_eq
  obtain ⟨name, value⟩ := member
  simp only [memberTokens, List.append_assoc, List.cons_append, List.nil_append] at start ⊢
  have word := readIdentifier_eq start named.1 named.2 (by rintro c ⟨⟩; rfl)
  have equals (rest : Text) : readMark '=' (' ' :: '=' :: rest) = some rest := readMark_eq rfl
  have literal : readLiteral (' ' :: (Json.literal value ++ ',' :: rest)) =
      some (value, ',' :: rest) := readLiteral_eq rfl
  have comma : readMark ',' (',' :: rest) = some rest := readMark_eq rfl
  simp only [readMember, word, equals, literal, comma, bind, Option.bind, pure]

/-- Each item decodes from its text, which starts with a token and ends with a line end. -/
structure ReadsBack {α : Type} (read : Text → Option (α × Text)) (written : α → Text)
    (tokens : α → Text) (seen : α → α) (item : α) : Prop where
  skips (rest : Text) : skip .blank (written item ++ rest) = some (tokens item ++ '\n' :: rest)
  starts : StartsToken (tokens item)
  reads (rest : Text) : read (tokens item ++ rest) = some (seen item, rest)

section Braces

variable {α : Type} {read : Text → Option (α × Text)} {written tokens : α → Text} {seen : α → α}

theorem readUntilBrace_items {items : List α}
    (items_read : ∀ item ∈ items, ReadsBack read written tokens seen item) {fuel : Nat}
    (enough : items.length < fuel) {text rest : Text}
    (start : skip .blank text = skip .blank (items.flatMap written ++ '\x7d' :: rest)) :
    readUntilBrace read fuel text = some (items.map seen, rest) := by
  induction items generalizing fuel text with
  | nil =>
    obtain ⟨fuel, rfl⟩ := Nat.exists_eq_succ_of_ne_zero (Nat.ne_of_gt enough)
    have brace : skip .blank text = some ('\x7d' :: rest) := start
    simp only [readUntilBrace, brace, List.map_nil]
  | cons item items ih =>
    obtain ⟨fuel, rfl⟩ := Nat.exists_eq_succ_of_ne_zero (Nat.ne_zero_of_lt enough)
    obtain ⟨skips, ⟨c, tail, opens, _, _, brace⟩, reads⟩ := items_read item (by simp)
    rw [List.flatMap_cons, List.append_assoc, skips] at start
    have found := reads ('\n' :: (items.flatMap written ++ '\x7d' :: rest))
    rw [opens] at start found
    have more : readUntilBrace read fuel ('\n' :: (items.flatMap written ++ '\x7d' :: rest)) =
        some (items.map seen, rest) :=
      ih (fun item member => items_read item (by simp [member])) (by simpa using enough) rfl
    rw [readUntilBrace.eq_def]
    simp only [start, List.cons_append]
    split
    · contradiction
    · rename_i same
      exact absurd (List.cons.inj (Option.some.inj same)).1 brace
    · rename_i same
      obtain rfl := Option.some.inj same
      simp only [List.cons_append] at found
      simp only [found, more, bind, Option.bind, pure, List.map_cons]

theorem length_le_written {items : List α}
    (items_read : ∀ item ∈ items, ReadsBack read written tokens seen item) :
    items.length ≤ (items.flatMap written).length := by
  induction items with
  | nil => simp
  | cons item items ih =>
    have tail := ih fun item member => items_read item (by simp [member])
    have head : written item ≠ [] := by
      intro empty
      have skips := (items_read item (by simp)).skips []
      rw [empty] at skips
      simp [skip] at skips
    have positive := List.length_pos_iff.mpr head
    simp only [List.length_cons, List.flatMap_cons, List.length_append]
    omega

theorem readBraced_items {items : List α}
    (items_read : ∀ item ∈ items, ReadsBack read written tokens seen item) {text rest : Text}
    (start : skip .blank text =
      some ('\x7b' :: '\n' :: (items.flatMap written ++ '\x7d' :: rest))) :
    readBraced read text = some (items.map seen, rest) := by
  have bound := length_le_written items_read
  let inner := '\n' :: (items.flatMap written ++ '\x7d' :: rest)
  have enough : items.length < inner.length := by
    simp only [inner, List.length_cons, List.length_append]
    omega
  have found : readUntilBrace read inner.length inner = some (items.map seen, rest) :=
    readUntilBrace_items items_read enough rfl
  simp only [readBraced, readMark_eq start, bind, Option.bind]
  exact found

end Braces

theorem readBraced_properties {properties : List Property}
    (typed : ∀ property ∈ properties, ReadsAsType property.type) {text rest : Text}
    (start : skip .blank text =
      some ('\x7b' :: '\n' :: (properties.flatMap propertyText ++ '\x7d' :: rest))) :
    readBraced readProperty text = some (properties.map bareProperty, rest) :=
  readBraced_items (fun property member => ⟨skip_propertyText property,
    startsToken_property property, readProperty_tokens (typed property member)⟩) start

theorem readBraced_members {members : List (Text × Text)}
    (named : ∀ member ∈ members, IsMemberName member.1) {text rest : Text}
    (start : skip .blank text =
      some ('\x7b' :: '\n' :: (members.flatMap memberText ++ '\x7d' :: rest))) :
    readBraced readMember text = some (members, rest) := by
  have reads (member : Text × Text) (found : member ∈ members) :
      ReadsBack readMember memberText memberTokens id member :=
    ⟨skip_memberText (named member found), startsToken_member (named member found),
      readMember_tokens (named member found)⟩
  have read := readBraced_items reads start
  rwa [List.map_id] at read

/-- A declaration without comments. -/
def bare : Declaration → Declaration
  | interface name properties => interface name (properties.map bareProperty)
  | declaration => declaration

def IsName (name : Text) : Prop := ∀ c ∈ name, Text.isAlnum c = true

/-- The names and types of the declaration decode as they are written. -/
def IsReadable : Declaration → Prop
  | interface name properties => IsName name ∧ ∀ property ∈ properties, ReadsAsType property.type
  | synonym name type => IsName name ∧ ReadsAsType type
  | enumeration name members => IsName name ∧ ∀ member ∈ members, IsMemberName member.1

/-- `readName` takes the alphanumeric run before a mark; the run may be empty. -/
theorem readName_eq {name : Text} (named : IsName name) (mark : Char) (rest : Text)
    (token : skip .blank (mark :: rest) = some (mark :: rest))
    (outside : Text.isAlnum mark = false) :
    ∃ left, readRun Text.isAlnum (' ' :: (name ++ ' ' :: mark :: rest)) = some (name, left) ∧
      skip .blank left = some (mark :: rest) := by
  cases name with
  | nil =>
    have start : skip .blank (' ' :: ([] ++ ' ' :: mark :: rest)) = some ([] ++ mark :: rest) := token
    exact ⟨mark :: rest, readRun_eq start (by simp) (by rintro c ⟨⟩; exact outside), token⟩
  | cons c name =>
    have start : skip .blank (' ' :: (c :: name ++ ' ' :: mark :: rest)) =
        some (c :: name ++ ' ' :: mark :: rest) :=
      (startsToken_cons (named c (by simp)) (by decide) (name ++ ' ' :: mark :: rest)).skip_eq
    exact ⟨' ' :: mark :: rest, readRun_eq start named (by rintro c ⟨⟩; rfl), token⟩

theorem readBody_interface {name : Text} (named : IsName name) {properties : List Property}
    (typed : ∀ property ∈ properties, ReadsAsType property.type) (rest : Text) :
    readBody "interface" (' ' :: (name ++ ' ' :: '\x7b' :: '\n' ::
      (properties.flatMap propertyText ++ '\x7d' :: rest))) =
      some (interface name (properties.map bareProperty), rest) := by
  obtain ⟨left, found, start⟩ := readName_eq named '\x7b'
    ('\n' :: (properties.flatMap propertyText ++ '\x7d' :: rest)) rfl rfl
  have braced := readBraced_properties typed start
  simp only [readBody, found, braced, bind, Option.bind, pure, if_true]

theorem readBody_enumeration {name : Text} (named : IsName name) {members : List (Text × Text)}
    (members_named : ∀ member ∈ members, IsMemberName member.1) (rest : Text) :
    readBody "enum" (' ' :: (name ++ ' ' :: '\x7b' :: '\n' ::
      (members.flatMap memberText ++ '\x7d' :: rest))) =
      some (enumeration name members, rest) := by
  obtain ⟨left, found, start⟩ := readName_eq named '\x7b'
    ('\n' :: (members.flatMap memberText ++ '\x7d' :: rest)) rfl rfl
  have braced := readBraced_members members_named start
  have other : "enum".toList ≠ "interface".toList := by decide
  simp only [readBody, found, braced, other, bind, Option.bind, pure, if_true, if_false]

theorem readBody_synonym {name type : Text} (named : IsName name) (typed : ReadsAsType type)
    (rest : Text) :
    readBody "type" (' ' :: (name ++ ' ' :: '=' :: ' ' :: (type ++ ';' :: rest))) =
      some (synonym name type, rest) := by
  obtain ⟨left, found, start⟩ := readName_eq named '=' (' ' :: (type ++ ';' :: rest)) rfl rfl
  have notInterface : "type".toList ≠ "interface".toList := by decide
  have notEnum : "type".toList ≠ "enum".toList := by decide
  simp only [readBody, found, readMark_eq start, typed rest, notInterface, notEnum, bind,
    Option.bind, pure, if_true, if_false]

@[simp] theorem endLines_nil : endLines [] = [] := rfl

@[simp] theorem endLines_cons (line : Text) (lines : List Text) :
    endLines (line :: lines) = line ++ '\n' :: endLines lines := by
  simp [endLines]

@[simp] theorem endLines_append (first second : List Text) :
    endLines (first ++ second) = endLines first ++ endLines second := by
  simp [endLines]

theorem endLines_flatMap {α : Type} (lines : α → List Text) (items : List α) :
    endLines (items.flatMap lines) = items.flatMap fun item => endLines (lines item) := by
  simp only [endLines, List.flatMap_assoc]

theorem readDeclaration_keyword {keyword body : Text} (named : keyword ≠ [])
    (inside : keyword.all Name.isIdentifierChar = true)
    (start : skip .blank (keyword ++ ' ' :: body) = some (keyword ++ ' ' :: body)) :
    readDeclaration ("export ".toList ++ (keyword ++ ' ' :: body)) =
      readBody keyword (' ' :: body) := by
  have word : readIdentifier ("export ".toList ++ (keyword ++ ' ' :: body)) =
      some ("export".toList, ' ' :: (keyword ++ ' ' :: body)) :=
    readIdentifier_eq rfl (by decide) (List.all_eq_true.mp rfl) (by rintro c ⟨⟩; rfl)
  have next : readIdentifier (' ' :: (keyword ++ ' ' :: body)) = some (keyword, ' ' :: body) :=
    readIdentifier_eq start named (List.all_eq_true.mp inside) (by rintro c ⟨⟩; rfl)
  unfold readDeclaration
  rw [word]
  change (if "export".toList = "export".toList then
    (readIdentifier (' ' :: (keyword ++ ' ' :: body))).bind fun found => readBody found.1 found.2
    else none) = _
  rw [if_pos rfl, next]
  rfl

/-- `readDeclaration` of the text of a readable declaration is its `bare` form, with the last line
end left. -/
theorem readDeclaration_text {declaration : Declaration} (readable : declaration.IsReadable)
    (rest : Text) :
    readDeclaration (declaration.text ++ rest) = some (declaration.bare, '\n' :: rest) := by
  cases declaration with
  | interface name properties =>
    have shape : (interface name properties).text ++ rest =
        "export ".toList ++ ("interface".toList ++ ' ' :: (name ++ ' ' :: '\x7b' :: '\n' ::
          (properties.flatMap propertyText ++ '\x7d' :: '\n' :: rest))) := by
      have body : endLines (properties.flatMap Property.lines) = properties.flatMap propertyText :=
        endLines_flatMap Property.lines properties
      simp [text, lines, body]
    rw [shape, readDeclaration_keyword (by decide) (by decide) rfl]
    exact readBody_interface readable.1 readable.2 _
  | synonym name type =>
    have shape : (synonym name type).text ++ rest =
        "export ".toList ++ ("type".toList ++ ' ' :: (name ++ ' ' :: '=' :: ' ' ::
          (type ++ ';' :: '\n' :: rest))) := by
      simp [text, lines]
    rw [shape, readDeclaration_keyword (by decide) (by decide) rfl]
    exact readBody_synonym readable.1 readable.2 _
  | enumeration name members =>
    have shape : (enumeration name members).text ++ rest =
        "export ".toList ++ ("enum".toList ++ ' ' :: (name ++ ' ' :: '\x7b' :: '\n' ::
          (members.flatMap memberText ++ '\x7d' :: '\n' :: rest))) := by
      have body : endLines (members.map memberLine) = members.flatMap memberText := by
        rw [List.map_eq_flatMap]
        exact endLines_flatMap (fun member => [memberLine member]) members
      simp [text, lines, body]
    rw [shape, readDeclaration_keyword (by decide) (by decide) rfl]
    exact readBody_enumeration readable.1 readable.2 _

end TypedCatalog.Declaration
