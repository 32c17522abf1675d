import TypedCatalog.Json.Reader
import TypedCatalog.Json.Writer

/-! Round trip of literals. `Json.literal` escapes each character by its UTF-16 code units in
printable ASCII, and `readText` decodes them. -/
namespace TypedCatalog.Json

theorem hexValue?_hexDigit_all : ∀ n < 16, Text.hexValue? (Text.hexDigit n) = some n := by decide

theorem hexUnit?_hex {unit : Nat} (fits : unit < 0x10000) :
    ∃ a b c d, Text.hex 4 unit = [a, b, c, d] ∧ hexUnit? a b c d = some unit := by
  refine ⟨_, _, _, _, rfl, ?_⟩
  have digit (n : Nat) : Text.hexValue? (Text.hexDigit (n % 16)) = some (n % 16) :=
    hexValue?_hexDigit_all _ (Nat.mod_lt _ (by decide))
  simp only [hexUnit?, digit, Option.pure_def, Option.bind_eq_bind, Option.bind_some,
    Option.some.injEq]
  omega

/-- Printable ASCII. -/
def IsPrinted (c : Char) : Prop := 0x20 ≤ c.toNat ∧ c.toNat ≤ 0x7e

instance : DecidablePred IsPrinted := fun _ => inferInstanceAs (Decidable (_ ∧ _))

/-- The spellings of a character in a literal: an escape letter, itself, or its code units. -/
inductive IsEscape : Char → Text → Prop where
  | letter {name c : Char} : escapeLetter? name = some c → IsEscape c ['\\', name]
  | plain {c : Char} : c ≠ '"' → c ≠ '\\' → IsPrinted c → IsEscape c [c]
  | code (c : Char) : IsEscape c (escapeCode c.toNat)

/-- `IsEscape` by an escape letter, or by the remaining cases. -/
theorem IsEscape.orLetter {name other c : Char} {written : Text}
    (known : escapeLetter? name = some other) (others : c ≠ other → IsEscape c written) :
    IsEscape c (if c = other then ['\\', name] else written) := by
  split
  · rename_i same
    exact same ▸ .letter known
  · rename_i different
    exact others different

theorem isEscape_escapeChar (c : Char) : IsEscape c (escapeChar c) := by
  refine .orLetter rfl fun quote => .orLetter rfl fun backslash => ?_
  -- the line ends and the other controls that have a letter
  refine .orLetter rfl fun _ => .orLetter rfl fun _ => .orLetter rfl fun _ =>
    .orLetter rfl fun _ => .orLetter rfl fun _ => ?_
  split
  · rename_i printed
    simp only [Bool.and_eq_true, decide_eq_true_eq] at printed
    exact .plain quote backslash printed
  · exact .code c

theorem escapeLetter?_basic {name c : Char} (known : escapeLetter? name = some c) :
    IsPrinted name ∧ c.toNat < 0x80 := by
  unfold escapeLetter? at known
  split at known
  case h_9 => contradiction
  all_goals
    cases known
    decide

theorem isPrinted_hex (width n : Nat) : ∀ c ∈ Text.hex width n, IsPrinted c := by
  have digits : ∀ n < 16, IsPrinted (Text.hexDigit n) := by decide
  induction width generalizing n with
  | zero => exact List.forall_mem_nil _
  | succ width ih =>
    refine List.forall_mem_append.mpr ⟨ih _, List.forall_mem_singleton.mpr ?_⟩
    exact digits _ (Nat.mod_lt _ (by decide))

theorem isPrinted_escapeUnit (unit : Nat) : ∀ c ∈ escapeUnit unit, IsPrinted c := by
  have mark : ∀ c ∈ ['\\', 'u'], IsPrinted c :=
    List.forall_mem_cons.mpr ⟨by decide, List.forall_mem_singleton.mpr (by decide)⟩
  exact List.forall_mem_append.mpr ⟨mark, isPrinted_hex 4 unit⟩

theorem isPrinted_escapeCode (code : Nat) : ∀ c ∈ escapeCode code, IsPrinted c := by
  unfold escapeCode
  split
  · exact isPrinted_escapeUnit code
  · exact List.forall_mem_append.mpr ⟨isPrinted_escapeUnit _, isPrinted_escapeUnit _⟩

theorem IsEscape.isPrinted {c : Char} {written : Text} (escape : IsEscape c written) :
    ∀ d ∈ written, IsPrinted d := by
  cases escape with
  | letter known =>
    have name := (escapeLetter?_basic known).1
    exact List.forall_mem_cons.mpr ⟨by decide, List.forall_mem_singleton.mpr name⟩
  | plain _ _ printed => exact List.forall_mem_singleton.mpr printed
  | code => exact isPrinted_escapeCode _

theorem IsEscape.ne_nil {c : Char} {written : Text} (escape : IsEscape c written) :
    written ≠ [] := by
  cases escape with
  | letter | plain => exact List.cons_ne_nil _ _
  | code =>
    unfold escapeCode
    split
    · exact List.cons_ne_nil _ _
    · exact List.cons_ne_nil _ _

theorem isPrinted_literal (text : Text) : ∀ c ∈ literal text, IsPrinted c := by
  have quote : IsPrinted '"' := by decide
  refine List.forall_mem_append.mpr
    ⟨List.forall_mem_cons.mpr ⟨quote, ?_⟩, List.forall_mem_singleton.mpr quote⟩
  intro d member
  obtain ⟨c, -, inside⟩ := List.mem_flatMap.mp member
  exact (isEscape_escapeChar c).isPrinted d inside

/-- The UTF-16 code units of a character. -/
def unitsOf (c : Char) : List Nat :=
  if c.toNat < 0x10000 then [c.toNat]
  else [0xd800 + (c.toNat - 0x10000) / 0x400, 0xdc00 + (c.toNat - 0x10000) % 0x400]

theorem toNat_valid (c : Char) : c.toNat < 0xd800 ∨ 0xdfff < c.toNat ∧ c.toNat < 0x110000 := c.valid

theorem unitChar_toNat (c : Char) : unitChar c.toNat = c := by
  have valid : c.toNat.isValidChar := c.valid
  simp only [unitChar, if_pos valid, Char.ofNat_toNat]

theorem joinUnits_basic {c : Char} (basic : c.toNat < 0x10000) (units : List Nat) :
    joinUnits (c.toNat :: units) = c :: joinUnits units := by
  cases units with
  | nil => simp only [joinUnits, unitChar_toNat]
  | cons unit units =>
    have notHigh : isHighUnit c.toNat = false := by
      have valid := toNat_valid c
      simp only [isHighUnit, Bool.and_eq_false_iff, decide_eq_false_iff_not]
      omega
    simp [joinUnits, notHigh, unitChar_toNat]

theorem joinUnits_pair {c : Char} (beyond : 0x10000 ≤ c.toNat) (units : List Nat) :
    joinUnits ((0xd800 + (c.toNat - 0x10000) / 0x400) ::
      (0xdc00 + (c.toNat - 0x10000) % 0x400) :: units) = c :: joinUnits units := by
  have valid := toNat_valid c
  have high : isHighUnit (0xd800 + (c.toNat - 0x10000) / 0x400) = true := by
    simp only [isHighUnit, Bool.and_eq_true, decide_eq_true_eq]
    omega
  have low : isLowUnit (0xdc00 + (c.toNat - 0x10000) % 0x400) = true := by
    simp only [isLowUnit, Bool.and_eq_true, decide_eq_true_eq]
    omega
  have code : 0x10000 + (0xd800 + (c.toNat - 0x10000) / 0x400 - 0xd800) * 0x400 +
      (0xdc00 + (c.toNat - 0x10000) % 0x400 - 0xdc00) = c.toNat := by omega
  simp only [joinUnits, high, low, Bool.and_self, if_true, code, Char.ofNat_toNat]

theorem joinUnits_unitsOf (text : Text) : joinUnits (text.flatMap unitsOf) = text := by
  induction text with
  | nil => rfl
  | cons c rest ih =>
    by_cases basic : c.toNat < 0x10000
    · rw [List.flatMap_cons, unitsOf, if_pos basic, List.singleton_append, joinUnits_basic basic, ih]
    · rw [List.flatMap_cons, unitsOf, if_neg basic, List.cons_append, List.singleton_append,
        joinUnits_pair (Nat.le_of_not_lt basic), ih]

/-- Units that were read before those of a step. -/
def prepend (more : List Nat) : Step (List Nat) → Step (List Nat)
  | .error stop => .error stop
  | .ok (units, rest) => .ok (more ++ units, rest)

@[simp] theorem prepend_ok (more units : List Nat) (rest : Text) :
    prepend more (.ok (units, rest)) = .ok (more ++ units, rest) := rfl

theorem prepend_prepend (first second : List Nat) (step : Step (List Nat)) :
    prepend first (prepend second step) = prepend (first ++ second) step := by
  cases step with
  | error stop => rfl
  | ok found => simp only [prepend, List.append_assoc]

variable (opened : Nat)

theorem readUnits_unicode {a b c d : Char} {unit : Nat} (valid : hexUnit? a b c d = some unit)
    {text : Text} (more : text ≠ []) :
    readUnits opened ('\\' :: 'u' :: a :: b :: c :: d :: text) =
      prepend [unit] (readUnits opened text) := by
  obtain ⟨next, rest, rfl⟩ := List.exists_cons_of_ne_nil more
  simp only [readUnits, valid]
  cases readUnits opened (next :: rest) <;> rfl

theorem readUnits_escapeUnit {unit : Nat} (fits : unit < 0x10000) {text : Text}
    (more : text ≠ []) :
    readUnits opened (escapeUnit unit ++ text) = prepend [unit] (readUnits opened text) := by
  obtain ⟨a, b, c, d, digits, read⟩ := hexUnit?_hex fits
  have shape : escapeUnit unit ++ text = '\\' :: 'u' :: a :: b :: c :: d :: text := by
    simp [escapeUnit, digits]
  rw [shape, readUnits_unicode opened read more]

theorem readUnits_letter {letter c : Char} (known : escapeLetter? letter = some c) (text : Text) :
    readUnits opened ('\\' :: letter :: text) = prepend [c.toNat] (readUnits opened text) := by
  have other : letter = 'u' → False := by
    rintro rfl
    simp [escapeLetter?] at known
  rw [readUnits.eq_6 opened letter text (fun _ _ _ _ _ _ same _ => other same) other]
  simp only [known]
  cases readUnits opened text <;> rfl

theorem readUnits_plain {c : Char} (quote : c ≠ '"') (backslash : c ≠ '\\')
    (printed : 0x20 ≤ c.toNat) (text : Text) :
    readUnits opened (c :: text) = prepend [c.toNat] (readUnits opened text) := by
  rw [readUnits.eq_7 opened c text quote backslash, if_neg (Nat.not_lt.mpr printed)]
  cases readUnits opened text <;> rfl

theorem readUnits_escapeCode (c : Char) {text : Text} (more : text ≠ []) :
    readUnits opened (escapeCode c.toNat ++ text) = prepend (unitsOf c) (readUnits opened text) := by
  have valid := toNat_valid c
  by_cases basic : c.toNat < 0x10000
  · simp only [escapeCode, unitsOf, if_pos basic]
    exact readUnits_escapeUnit opened basic more
  · simp only [escapeCode, unitsOf, if_neg basic, List.append_assoc]
    rw [readUnits_escapeUnit opened (by omega) (by simp [escapeUnit]),
      readUnits_escapeUnit opened (by omega) more, prepend_prepend]
    rfl

/-- `readUnits` decodes the escape of a character to its units. -/
theorem IsEscape.readUnits {c : Char} {written text : Text} (escape : IsEscape c written)
    (more : text ≠ []) :
    Json.readUnits opened (written ++ text) =
      prepend (unitsOf c) (Json.readUnits opened text) := by
  cases escape with
  | letter known =>
    have basic := (escapeLetter?_basic known).2
    rw [unitsOf, if_pos (by omega)]
    exact readUnits_letter opened known text
  | plain quote backslash printed =>
    have basic := printed.2
    rw [unitsOf, if_pos (by omega)]
    exact readUnits_plain opened quote backslash printed.1 text
  | code => exact readUnits_escapeCode opened c more

theorem readUnits_escapes (text rest : Text) :
    readUnits opened (text.flatMap escapeChar ++ '"' :: rest) =
      .ok (text.flatMap unitsOf, rest) := by
  induction text with
  | nil => simp only [List.flatMap_nil, List.nil_append, readUnits.eq_2]
  | cons c text ih =>
    rw [List.flatMap_cons, List.append_assoc, (isEscape_escapeChar c).readUnits opened (by simp), ih]
    rfl

/-- `readText` decodes the literal of a text after its opening quote. -/
theorem readText_escapes (text rest : Text) :
    readText (text.flatMap escapeChar ++ '"' :: rest) = .ok (text, rest) := by
  simp only [readText, readUnits_escapes, joinUnits_unitsOf]

end TypedCatalog.Json
