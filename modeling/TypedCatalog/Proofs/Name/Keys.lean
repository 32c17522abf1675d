import TypedCatalog.Proofs.Json.RoundTrip
import TypedCatalog.Proofs.Name

/-! Injectivity and decoding of `Name.propertyKey`, and the range of `Name.enumMember`. -/
namespace TypedCatalog

namespace Json

variable {written text other : Text}

/-- A double-quoted literal in printable ASCII that decodes by JSON rules to the text. -/
structure Quotes (written text : Text) : Prop where
  quoted : ∃ inside, written = '"' :: (inside ++ ['"'])
  printed : ∀ c ∈ written, IsPrinted c
  read : Json.read written = .ok (.str text)

theorem quotes_literal (text : Text) : Quotes (literal text) text where
  quoted := ⟨_, rfl⟩
  printed := isPrinted_literal text
  read := read_write (.str text)

theorem Quotes.text_eq (first : Quotes written text) (second : Quotes written other) :
    text = other := by
  have same := first.read.symm.trans second.read
  exact Value.str.inj (Except.ok.inj same)

/-- A literal is longer than its text. -/
theorem length_lt_literal (text : Text) : text.length < (literal text).length := by
  have inside : text.length ≤ (text.flatMap escapeChar).length := by
    induction text with
    | nil => exact Nat.le_refl 0
    | cons c text ih =>
      have positive := List.length_pos_iff.mpr (isEscape_escapeChar c).ne_nil
      rw [List.flatMap_cons, List.length_append, List.length_cons]
      omega
  simp only [literal, List.length_append, List.length_cons]
  omega

end Json

namespace Name

open Text

variable {name other key value : Text}

/-- A full match: one character of the first class, then characters of the second. -/
def Spells (first others : Char → Bool) : Text → Prop
  | [] => False
  | c :: rest => first c = true ∧ ∀ d ∈ rest, others d = true

theorem spells_identifier :
    isIdentifier name = true ↔ Spells isIdentifierStart isIdentifierChar name := by
  cases name with
  | nil => simp [isIdentifier, Spells]
  | cons c rest => simp [isIdentifier, Spells]

/-- A key of a name: the name itself as an identifier, or a literal that decodes to it. -/
inductive IsKey (name : Text) : Text → Prop where
  | bare : Spells isIdentifierStart isIdentifierChar name → IsKey name name
  | quoted {key : Text} : ¬Spells isIdentifierStart isIdentifierChar name → Json.Quotes key name →
      IsKey name key

theorem isKey_propertyKey (name : Text) : IsKey name (propertyKey name) := by
  unfold propertyKey
  split
  · rename_i identifier
    exact .bare (spells_identifier.mp identifier)
  · rename_i other
    exact .quoted (spells_identifier.not.mp other) (Json.quotes_literal name)

/-- No identifier is a literal. -/
theorem not_quotes (identifier : Spells isIdentifierStart isIdentifierChar key) :
    ¬Json.Quotes key name := by
  intro quotes
  obtain ⟨inside, rfl⟩ := quotes.quoted
  exact absurd identifier.1 (by decide)

/-- `IsKey` determines the name. -/
theorem IsKey.name_eq (first : IsKey name key) (second : IsKey other key) : name = other := by
  cases first with
  | bare identifier =>
    cases second with
    | bare => rfl
    | quoted _ quotes => exact absurd quotes (not_quotes identifier)
  | quoted _ quotes =>
    cases second with
    | bare identifier => exact absurd quotes (not_quotes identifier)
    | quoted _ again => exact quotes.text_eq again

theorem propertyKey_eq_self_iff :
    propertyKey name = name ↔ Spells isIdentifierStart isIdentifierChar name := by
  rw [← spells_identifier]
  constructor
  · intro same
    by_contra other
    rw [propertyKey, if_neg other] at same
    -- The key would be a literal of the name, which is longer than the name.
    have longer := Json.length_lt_literal name
    rw [same] at longer
    exact Nat.lt_irrefl _ longer
  · exact fun identifier => if_pos identifier

def isMemberStart (c : Char) : Bool := isLower c || isUpper c || c = '_'

theorem isMemberStart_eq (c : Char) : isMemberStart c = (isMemberChar c && !isDigit c) := by
  cases alnum : isAlnum c with
  | true =>
    exact forall_isAlnum (fun c => isMemberStart c = (isMemberChar c && !isDigit c)) (by decide)
      alnum
  | false =>
    have parts := alnum
    simp only [isAlnum, Bool.or_eq_false_iff] at parts
    simp [isMemberStart, isMemberChar, alnum, parts]

theorem spells_member : Spells isMemberStart isMemberChar value ↔
    ¬IsLed value ∧ ∀ c ∈ value, isMemberChar c = true := by
  cases value with
  | nil => simp [Spells, IsLed]
  | cons c rest =>
    simp only [Spells, isMemberStart_eq, IsLed, List.head?_cons, Option.mem_def,
      Option.some.injEq, forall_eq', List.forall_mem_cons, Bool.and_eq_true, Bool.not_eq_true',
      Bool.not_eq_true]
    tauto

theorem not_isLed_enumMember (value : Text) : ¬IsLed (enumMember value) := by
  by_cases led : IsLed value
  · rw [enumMember_of_led led]
    exact not_isLed_of_blurred (.inl rfl) _
  · rwa [enumMember_of_not_led led, isLed_map_blur]

theorem spells_enumMember (value : Text) : Spells isMemberStart isMemberChar (enumMember value) :=
  spells_member.mpr ⟨not_isLed_enumMember value, isMemberChar_enumMember value⟩

theorem enumMember_eq_self_iff :
    enumMember value = value ↔ Spells isMemberStart isMemberChar value := by
  constructor
  · intro same
    exact same ▸ spells_enumMember value
  · intro member
    obtain ⟨free, inside⟩ := spells_member.mp member
    calc enumMember value = value.map blur := enumMember_of_not_led free
      _ = value.map id := List.map_congr_left fun c found => if_pos (inside c found)
      _ = value := List.map_id value

/-- `propertyKey` is injective and satisfies `IsKey`, and it is the identity exactly on identifiers;
`Json.literal` satisfies `Json.Quotes`. `enumMember` yields member names, is the identity exactly on
these, and is idempotent. -/
theorem keys_decode :
    (∀ name, IsKey name (propertyKey name) ∧
      (propertyKey name = name ↔ Spells isIdentifierStart isIdentifierChar name)) ∧
    Function.Injective propertyKey ∧
    (∀ text, Json.Quotes (Json.literal text) text) ∧
    ∀ value, Spells isMemberStart isMemberChar (enumMember value) ∧
      (enumMember value = value ↔ Spells isMemberStart isMemberChar value) ∧
      enumMember (enumMember value) = enumMember value := by
  refine ⟨fun name => ⟨isKey_propertyKey name, propertyKey_eq_self_iff⟩, ?_, Json.quotes_literal,
    fun value => ⟨spells_enumMember value, enumMember_eq_self_iff, ?_⟩⟩
  · intro name other same
    exact (isKey_propertyKey name).name_eq (same ▸ isKey_propertyKey other)
  · exact enumMember_eq_self_iff.mpr (spells_enumMember value)

end Name
end TypedCatalog
