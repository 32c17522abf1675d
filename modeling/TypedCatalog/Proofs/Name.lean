import Mathlib.Data.List.Forall2
import TypedCatalog.Name
import TypedCatalog.Proofs.Text.Runs

/-! Character classes of generated names, and the exact kernel of `Name.enumMember`
(`SharesMember`). -/
namespace TypedCatalog

namespace Text

theorem isAlnum_basic {c : Char} (alnum : isAlnum c = true) : c.toNat < 128 := by
  simp only [isAlnum, isDigit, isLower, isUpper, Bool.or_eq_true, Bool.and_eq_true,
    decide_eq_true_eq, Char.le_def, UInt32.le_iff_toNat_le] at alnum
  have same : c.toNat = c.val.toNat := rfl
  rcases alnum with (⟨_, high⟩ | ⟨_, high⟩) | ⟨_, high⟩
  · have bound : ('9' : Char).val.toNat = 57 := rfl
    omega
  · have bound : ('z' : Char).val.toNat = 122 := rfl
    omega
  · have bound : ('Z' : Char).val.toNat = 90 := rfl
    omega

/-- A property of alphanumeric characters is decided on the first 128 characters. -/
theorem forall_isAlnum (holds : Char → Prop)
    (basic : ∀ n < 128, isAlnum (Char.ofNat n) = true → holds (Char.ofNat n)) {c : Char}
    (alnum : isAlnum c = true) : holds c := by
  have found := basic c.toNat (isAlnum_basic alnum)
  rw [Char.ofNat_toNat] at found
  exact found alnum

/-- A property of all characters is decided on alphanumeric ones, if it holds of those without
case. -/
theorem forall_formed (holds : Char → Prop)
    (basic : ∀ n < 128, isAlnum (Char.ofNat n) = true → holds (Char.ofNat n))
    (others : ∀ c, lowerAscii c = c → upperAscii c = c → holds c) (c : Char) : holds c := by
  cases alnum : isAlnum c with
  | true => exact forall_isAlnum holds basic alnum
  | false =>
    simp only [isAlnum, Bool.or_eq_false_iff] at alnum
    exact others c (by simp [lowerAscii, alnum]) (by simp [upperAscii, alnum])

theorem isAlnum_upperAscii (c : Char) : isAlnum (upperAscii c) = isAlnum c :=
  forall_formed (fun c => isAlnum (upperAscii c) = isAlnum c) (by decide)
    (fun _ _ upper => congrArg isAlnum upper) c

theorem isAlnum_lowerAscii (c : Char) : isAlnum (lowerAscii c) = isAlnum c :=
  forall_formed (fun c => isAlnum (lowerAscii c) = isAlnum c) (by decide)
    (fun _ lower _ => congrArg isAlnum lower) c

theorem isDigit_upperAscii (c : Char) : isDigit (upperAscii c) = isDigit c :=
  forall_formed (fun c => isDigit (upperAscii c) = isDigit c) (by decide)
    (fun _ _ upper => congrArg isDigit upper) c

end Text

namespace Name

theorem isAlnum_capitalize {word : Text} (inside : ∀ c ∈ word, Text.isAlnum c = true) :
    ∀ c ∈ capitalize word, Text.isAlnum c = true := by
  cases word with
  | nil => simp [capitalize]
  | cons first rest =>
    intro c member
    rcases List.mem_cons.mp member with rfl | member
    · exact (Text.isAlnum_upperAscii first).trans (inside first (by simp))
    · obtain ⟨d, found, rfl⟩ := List.mem_map.mp member
      exact (Text.isAlnum_lowerAscii d).trans (inside d (by simp [found]))

theorem isAlnum_pascal (name : Text) : ∀ c ∈ pascal name, Text.isAlnum c = true := by
  intro c member
  obtain ⟨word, found, member⟩ := List.mem_flatMap.mp member
  apply isAlnum_capitalize _ c member
  intro d inside
  simpa using Text.separates_wordsBy found d inside

/-- The first character of `pascal` is the first alphanumeric one, in capital form. -/
theorem head?_pascal (name : Text) :
    (pascal name).head? = (name.find? Text.isAlnum).map Text.upperAscii := by
  induction name with
  | nil => rfl
  | cons c rest ih =>
    cases alnum : Text.isAlnum c with
    | false =>
      have skipped : pascal (c :: rest) = pascal rest := by
        rw [pascal, Text.wordsBy_separator (by simp [alnum]), pascal]
      rw [skipped, ih, List.find?_cons_of_neg (by simp [alnum])]
    | true =>
      have inside : (!Text.isAlnum c) = false := by simp [alnum]
      obtain ⟨word, words, shape⟩ := @Text.wordsBy_cons (fun c => !Text.isAlnum c) c inside rest
      rw [pascal, shape, List.find?_cons_of_pos alnum]
      rfl

/-- An alphanumeric text is an identifier if and only if it starts with a letter. -/
theorem isIdentifier_iff {text : Text} (inside : ∀ c ∈ text, Text.isAlnum c = true) :
    isIdentifier text = true ↔ ∃ c ∈ text.head?, Text.isDigit c = false := by
  cases text with
  | nil => simp [isIdentifier]
  | cons c rest =>
    obtain ⟨first, others⟩ := List.forall_mem_cons.mp inside
    have start : isIdentifierStart c = !Text.isDigit c :=
      Text.forall_isAlnum (fun c => isIdentifierStart c = !Text.isDigit c) (by decide) first
    have tail : rest.all isIdentifierChar = true := by
      rw [List.all_eq_true]
      intro d member
      simp [isIdentifierChar, others d member]
    simp [isIdentifier, start, tail]

theorem enumMember_ne_nil (value : Text) : enumMember value ≠ [] := by
  unfold enumMember
  split
  · simp
  · split <;> simp

/-- Replacing the characters outside a class by a member of it yields a text over the class. -/
theorem holds_replaced {holds : Char → Bool} {mark : Char} (held : holds mark = true) (text : Text) :
    ∀ c ∈ text.map (fun c => if holds c then c else mark), holds c = true := by
  intro c member
  obtain ⟨d, -, rfl⟩ := List.mem_map.mp member
  split
  · assumption
  · exact held

theorem isMemberChar_enumMember (value : Text) : ∀ c ∈ enumMember value, isMemberChar c = true := by
  have underscore : isMemberChar '_' = true := by decide
  have replaced := holds_replaced underscore value
  unfold enumMember
  split
  · exact List.forall_mem_singleton.mpr underscore
  · rename_i first rest same
    rw [same] at replaced
    split
    · exact List.forall_mem_cons.mpr ⟨underscore, replaced⟩
    · exact replaced

theorem isModuleChar_moduleName (schema : Text) :
    ∀ c ∈ moduleName schema, isModuleChar c = true :=
  List.forall_mem_append.mpr ⟨List.all_eq_true.mp rfl, holds_replaced (by decide) schema⟩

/-- `enumMember` writes an underscore for the character. -/
def IsBlurred (c : Char) : Prop := c = '_' ∨ isMemberChar c = false

/-- `enumMember` does not distinguish the characters. -/
def Alike (c d : Char) : Prop := c = d ∨ IsBlurred c ∧ IsBlurred d

/-- `enumMember` puts an underscore before the value: it is empty or starts with a digit. -/
def IsLed (value : Text) : Prop := ∀ c ∈ value.head?, Text.isDigit c = true

/-- The second value spells out the underscore that `enumMember` puts before the first. -/
inductive Anticipated : Text → Text → Prop where
  | lead {value rest : Text} {c : Char} : IsLed value → IsBlurred c →
      List.Forall₂ Alike value rest → Anticipated value (c :: rest)

/-- The kernel of `enumMember`: characters that are `Alike`, or an `Anticipated` underscore. -/
inductive SharesMember (value other : Text) : Prop where
  | alike : List.Forall₂ Alike value other → SharesMember value other
  | first : Anticipated value other → SharesMember value other
  | second : Anticipated other value → SharesMember value other

/-- The character that `enumMember` writes. -/
def blur (c : Char) : Char := if isMemberChar c then c else '_'

variable {value other : Text} {c d : Char}

theorem blur_eq_underscore : blur c = '_' ↔ IsBlurred c := by
  unfold blur IsBlurred
  split
  · rename_i holds
    simp [holds]
  · rename_i other
    simp [other]

theorem blur_eq_iff : blur c = blur d ↔ Alike c d := by
  constructor
  · intro same
    by_cases blurred : IsBlurred c
    · have underscore : blur d = '_' := same ▸ blur_eq_underscore.mpr blurred
      exact .inr ⟨blurred, blur_eq_underscore.mp underscore⟩
    · have clear : ¬IsBlurred d := by
        rwa [← blur_eq_underscore, ← same, blur_eq_underscore]
      simp only [IsBlurred, not_or, Bool.not_eq_false] at blurred clear
      rw [blur, blur, if_pos blurred.2, if_pos clear.2] at same
      exact .inl same
  · rintro (rfl | ⟨first, second⟩)
    · rfl
    · rw [blur_eq_underscore.mpr first, blur_eq_underscore.mpr second]

theorem map_blur_eq_iff : value.map blur = other.map blur ↔ List.Forall₂ Alike value other := by
  rw [← List.forall₂_eq_eq_eq, List.forall₂_map_left_iff, List.forall₂_map_right_iff]
  simp only [blur_eq_iff]

theorem isDigit_blur : Text.isDigit (blur c) = Text.isDigit c := by
  unfold blur
  split
  · rfl
  · rename_i other
    simp only [isMemberChar, Text.isAlnum, Bool.or_eq_true, not_or, Bool.not_eq_true] at other
    rw [other.1.1.1]
    rfl

theorem isLed_map_blur : IsLed (value.map blur) ↔ IsLed value := by
  cases value with
  | nil => exact Iff.rfl
  | cons c rest => simp [IsLed, isDigit_blur]

theorem enumMember_of_led (led : IsLed value) : enumMember value = '_' :: value.map blur := by
  cases value with
  | nil => rfl
  | cons c rest =>
    have digit : Text.isDigit (blur c) = true := isDigit_blur.trans (led c rfl)
    exact if_pos digit

theorem enumMember_of_not_led (free : ¬IsLed value) : enumMember value = value.map blur := by
  cases value with
  | nil => exact absurd (fun _ => nofun) free
  | cons c rest =>
    have letter : ¬Text.isDigit (blur c) = true := by
      rw [isDigit_blur]
      exact fun digit => free (by simpa [IsLed] using digit)
    exact if_neg letter

theorem not_isLed_of_blurred (blurred : IsBlurred c) (rest : Text) : ¬IsLed (c :: rest) := by
  intro led
  have digit : Text.isDigit (blur c) = true := isDigit_blur.trans (led c rfl)
  rw [blur_eq_underscore.mpr blurred] at digit
  contradiction

theorem Anticipated.enumMember_eq (anticipated : Anticipated value other) :
    enumMember value = enumMember other := by
  obtain ⟨led, blurred, alike⟩ := anticipated
  rw [enumMember_of_led led, enumMember_of_not_led (not_isLed_of_blurred blurred _),
    List.map_cons, blur_eq_underscore.mpr blurred, map_blur_eq_iff.mpr alike]

theorem anticipated_of_enumMember (led : IsLed value) (free : ¬IsLed other)
    (same : enumMember value = enumMember other) : Anticipated value other := by
  rw [enumMember_of_led led, enumMember_of_not_led free] at same
  cases other with
  | nil => cases same
  | cons c rest =>
    obtain ⟨first, others⟩ := List.cons.inj same
    exact .lead led (blur_eq_underscore.mp first.symm) (map_blur_eq_iff.mp others)

/-- Two values have one member if and only if they satisfy `SharesMember`. -/
theorem enumMember_eq_iff : enumMember value = enumMember other ↔ SharesMember value other := by
  constructor
  · intro same
    by_cases led : IsLed value
    · by_cases ledToo : IsLed other
      · rw [enumMember_of_led led, enumMember_of_led ledToo] at same
        exact .alike (map_blur_eq_iff.mp (List.cons.inj same).2)
      · exact .first (anticipated_of_enumMember led ledToo same)
    · by_cases ledToo : IsLed other
      · exact .second (anticipated_of_enumMember ledToo led same.symm)
      · rw [enumMember_of_not_led led, enumMember_of_not_led ledToo] at same
        exact .alike (map_blur_eq_iff.mp same)
  · rintro (alike | anticipated | anticipated)
    · have same := map_blur_eq_iff.mpr alike
      by_cases led : IsLed value
      · have ledToo : IsLed other := by rwa [← isLed_map_blur, ← same, isLed_map_blur]
        rw [enumMember_of_led led, enumMember_of_led ledToo, same]
      · have free : ¬IsLed other := by rwa [← isLed_map_blur, ← same, isLed_map_blur]
        rw [enumMember_of_not_led led, enumMember_of_not_led free, same]
    · exact anticipated.enumMember_eq
    · exact anticipated.enumMember_eq.symm

end Name
end TypedCatalog
