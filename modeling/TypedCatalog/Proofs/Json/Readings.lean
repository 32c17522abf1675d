import TypedCatalog.Proofs.Json.Literal
import TypedCatalog.Proofs.Text.Clean
import TypedCatalog.Proofs.Text.Split

/-! The JSON readers as relations on text. Every step shortens the text, so its length bounds the
required fuel (`IsSettled`). -/
namespace TypedCatalog.Json

/-- One step of `readValue`; `fuel` is for the parts of the value. -/
inductive ReadsValue (fuel : Nat) : Text → Value → Text → Prop where
  | text {opened rest name : Text} : readText opened = .ok (name, rest) →
      ReadsValue fuel ('"' :: opened) (.str name) rest
  | noItems {opened rest : Text} : skipSpace opened = ']' :: rest →
      ReadsValue fuel ('[' :: opened) (.list []) rest
  | items {opened rest : Text} {items : List Value} : (skipSpace opened).head? ≠ some ']' →
      readItems fuel (skipSpace opened) = .ok (items, rest) →
      ReadsValue fuel ('[' :: opened) (.list items) rest
  | noEntries {opened rest : Text} : skipSpace opened = '\x7d' :: rest →
      ReadsValue fuel ('\x7b' :: opened) (.dict []) rest
  | entries {opened rest : Text} {entries : Value.Entries} :
      (skipSpace opened).head? ≠ some '\x7d' →
      readEntries fuel (skipSpace opened) = .ok (entries, rest) →
      ReadsValue fuel ('\x7b' :: opened) (.dict (Value.ofEntries entries)) rest
  | scalar {text rest : Text} {value : Value} :
      (∀ c ∈ ['"', '[', '\x7b'], text.head? ≠ some c) →
      readScalar text = .ok (value, rest) → ReadsValue fuel text value rest

/-- One step of `readItems`. -/
inductive ReadsItems (fuel : Nat) : Text → List Value → Text → Prop where
  | last {text left rest : Text} {item : Value} : readValue fuel text = .ok (item, left) →
      skipSpace left = ']' :: rest → ReadsItems fuel text [item] rest
  | more {text left more rest : Text} {item : Value} {items : List Value} :
      readValue fuel text = .ok (item, left) → skipSpace left = ',' :: more →
      readItems fuel (skipSpace more) = .ok (items, rest) →
      ReadsItems fuel text (item :: items) rest

/-- An entry of `readEntries`. -/
inductive ReadsEntry (fuel : Nat) : Text → Value × Value → Text → Prop where
  | named {opened left more rest name : Text} {value : Value} :
      readText opened = .ok (name, left) → skipSpace left = ':' :: more →
      readValue fuel (skipSpace more) = .ok (value, rest) →
      ReadsEntry fuel ('"' :: opened) (.str name, value) rest

/-- One step of `readEntries`. -/
inductive ReadsEntries (fuel : Nat) : Text → Value.Entries → Text → Prop where
  | last {text left rest : Text} {entry : Value × Value} : ReadsEntry fuel text entry left →
      skipSpace left = '\x7d' :: rest → ReadsEntries fuel text [entry] rest
  | more {text left more rest : Text} {entry : Value × Value} {entries : Value.Entries} :
      ReadsEntry fuel text entry left → skipSpace left = ',' :: more →
      readEntries fuel (skipSpace more) = .ok (entries, rest) →
      ReadsEntries fuel text (entry :: entries) rest

variable {fuel : Nat} {text rest : Text} {value : Value}

theorem head?_ne {c : Char} (other : ∀ rest, text = c :: rest → False) : text.head? ≠ some c := by
  intro first
  obtain ⟨rest, same⟩ := List.head?_eq_some_iff.mp first
  exact other rest same

theorem readValue_iff :
    readValue (fuel + 1) text = .ok (value, rest) ↔ ReadsValue fuel text value rest := by
  constructor
  · intro read
    rw [readValue.eq_def] at read
    dsimp only at read
    split at read
    · split at read
      · cases read
      · rename_i found
        cases read
        exact .text found
    · split at read
      · rename_i closed
        cases read
        exact .noItems closed
      · rename_i other
        split at read
        · cases read
        · rename_i found
          cases read
          exact .items (head?_ne other) found
    · split at read
      · rename_i closed
        cases read
        exact .noEntries closed
      · rename_i other
        split at read
        · cases read
        · rename_i found
          cases read
          exact .entries (head?_ne other) found
    · rename_i quote bracket brace
      refine .scalar ?_ read
      simp only [List.forall_mem_cons, List.not_mem_nil, false_imp_iff, implies_true, and_true]
      exact ⟨head?_ne quote, head?_ne bracket, head?_ne brace⟩
  · intro reads
    cases reads with
    | text found => simp only [readValue, found]
    | noItems closed => simp only [readValue, closed]
    | items other found =>
      rw [readValue]
      split
      · rename_i closed
        simp [closed] at other
      · rw [found]
    | noEntries closed => simp only [readValue, closed]
    | entries other found =>
      rw [readValue]
      split
      · rename_i closed
        simp [closed] at other
      · rw [found]
    | scalar other found =>
      rw [readValue.eq_5, found]
      all_goals
        rintro rest rfl
        exact other _ (by simp) rfl

theorem readItems_iff {items : List Value} :
    readItems (fuel + 1) text = .ok (items, rest) ↔ ReadsItems fuel text items rest := by
  constructor
  · intro read
    rw [readItems] at read
    split at read
    · cases read
    · rename_i first
      split at read
      · rename_i closed
        cases read
        exact .last first closed
      · rename_i comma
        split at read
        · cases read
        · rename_i others
          cases read
          exact .more first comma others
      · cases read
  · intro reads
    cases reads with
    | last first closed => simp only [readItems, first, closed]
    | more first comma others => simp only [readItems, first, comma, others]

theorem readEntries_iff {entries : Value.Entries} :
    readEntries (fuel + 1) text = .ok (entries, rest) ↔ ReadsEntries fuel text entries rest := by
  constructor
  · intro read
    rw [readEntries.eq_def] at read
    dsimp only at read
    split at read
    · split at read
      · cases read
      · rename_i name found
        split at read
        · rename_i colon
          split at read
          · cases read
          · rename_i first
            split at read
            · rename_i closed
              cases read
              exact .last (.named found colon first) closed
            · rename_i comma
              split at read
              · cases read
              · rename_i others
                cases read
                exact .more (.named found colon first) comma others
            · cases read
        · cases read
    · cases read
  · intro reads
    cases reads with
    | last entry closed =>
      cases entry with
      | named found colon first => simp only [readEntries, found, colon, first, closed]
    | more entry comma others =>
      cases entry with
      | named found colon first => simp only [readEntries, found, colon, first, comma, others]

theorem readScalar_word {found : Value × Text} (word : readWord? text = some found) :
    readScalar text = .ok found := by
  simp only [readScalar, word]

theorem readScalar_minus (wordless : readWord? ('-' :: text) = none) :
    readScalar ('-' :: text) = readMagnitude (text.length + 1) true text := by
  rw [readScalar, wordless, List.length_cons]

theorem readScalar_unsigned (wordless : readWord? text = none) (other : text.head? ≠ some '-') :
    readScalar text = readMagnitude text.length false text := by
  simp only [readScalar, wordless]
  split
  · exact absurd rfl other
  · rfl

/-- `Json.read` succeeds if and only if the text has no byte order mark and decodes to the value up
to white space. -/
theorem read_iff : Json.read text = .ok value ↔ text.head? ≠ some '\ufeff' ∧
    ∃ rest, readValue (2 * text.length + 1) (skipSpace text) = .ok (value, rest) ∧
      skipSpace rest = [] := by
  have document : Json.read text = .ok value ↔ readDocument text = .ok value := by
    unfold Json.read
    split
    all_goals
      rename_i found
      simp [found]
  rw [document, readDocument.eq_def]
  split
  · simp
  · rename_i other
    generalize readValue (2 * text.length + 1) (skipSpace text) = found
    constructor
    · intro read
      refine ⟨head?_ne other, ?_⟩
      split at read
      · cases read
      · split at read
        · rename_i all
          cases read
          exact ⟨_, rfl, all⟩
        · cases read
    · rintro ⟨-, rest, found, all⟩
      simp only [found, all]

theorem isClean_hexUnit {a b c d : Char} {unit : Nat} (valid : hexUnit? a b c d = some unit) :
    IsClean [a, b, c, d] := by
  have noDigit : Text.hexValue? '\r' = none := rfl
  intro member
  simp only [hexUnit?, Option.bind_eq_bind, Option.bind_eq_some_iff] at valid
  obtain ⟨_, first, _, second, _, third, _, fourth, _⟩ := valid
  simp only [List.mem_cons, List.not_mem_nil, or_false] at member
  rcases member with rfl | rfl | rfl | rfl <;> simp_all

/-- The text decodes to the units before a closing quote, contains no line end, and does so for
every rest. -/
structure IsLiteral (front : Text) (units : List Nat) : Prop where
  clean : IsClean front
  read : ∀ opened rest, readUnits opened (front ++ '"' :: rest) = .ok (units, rest)

namespace IsLiteral

variable {front : Text} {units : List Nat} {c : Char}

theorem nil : IsLiteral [] [] := ⟨.nil, fun _ _ => rfl⟩

theorem unicode {a b d : Char} {unit : Nat} (literal : IsLiteral front units)
    (valid : hexUnit? a b c d = some unit) :
    IsLiteral ('\\' :: 'u' :: a :: b :: c :: d :: front) (unit :: units) := by
  constructor
  · exact .cons (by decide) (.cons (by decide) ((isClean_hexUnit valid).append literal.clean))
  · intro opened rest
    exact (readUnits_unicode opened valid (by simp)).trans
      (congrArg (prepend [unit]) (literal.read opened rest))

theorem letter {letter : Char} (literal : IsLiteral front units)
    (known : escapeLetter? letter = some c) :
    IsLiteral ('\\' :: letter :: front) (c.toNat :: units) := by
  have other : letter ≠ '\r' := by
    rintro rfl
    cases known
  constructor
  · exact .cons (by decide) (.cons other literal.clean)
  · intro opened rest
    exact (readUnits_letter opened known _).trans
      (congrArg (prepend [c.toNat]) (literal.read opened rest))

theorem plain (literal : IsLiteral front units) (quote : c ≠ '"') (backslash : c ≠ '\\')
    (printed : 0x20 ≤ c.toNat) : IsLiteral (c :: front) (c.toNat :: units) := by
  have other : c ≠ '\r' := by
    rintro rfl
    exact absurd printed (by decide)
  constructor
  · exact .cons other literal.clean
  · intro opened rest
    exact (readUnits_plain opened quote backslash printed _).trans
      (congrArg (prepend [c.toNat]) (literal.read opened rest))

end IsLiteral

theorem readUnits_ok {opened : Nat} {units : List Nat}
    (read : readUnits opened text = .ok (units, rest)) :
    ∃ front, text = front ++ '"' :: rest ∧ IsLiteral front units := by
  -- along the reader; where it stops, nothing is read
  induction text using readUnits.induct opened generalizing units rest with
  | case1 => cases read
  | case2 left =>
    cases read
    exact ⟨[], rfl, .nil⟩
  | case3 => cases read
  | case4 a b c d next left invalid =>
    rw [readUnits, invalid] at read
    cases read
  | case5 a b c d next left unit valid stop failed =>
    rw [readUnits, valid, failed] at read
    cases read
  | case6 a b c d next left unit valid units behind found ih =>
    rw [readUnits, valid, found] at read
    cases read
    obtain ⟨front, shape, literal⟩ := ih found
    exact ⟨_, by rw [shape]; rfl, literal.unicode valid⟩
  | case7 left short =>
    rw [readUnits.eq_5 _ _ short] at read
    cases read
  | case8 letter left far other unknown =>
    rw [readUnits.eq_6 _ _ _ far other, unknown] at read
    cases read
  | case9 letter left far other c known stop failed =>
    rw [readUnits_letter _ known, failed] at read
    cases read
  | case10 letter left far other c known units behind found ih =>
    rw [readUnits_letter _ known, found] at read
    cases read
    obtain ⟨front, rfl, literal⟩ := ih found
    exact ⟨_, rfl, literal.letter known⟩
  | case11 c left quote backslash control =>
    rw [readUnits.eq_7 _ _ _ quote backslash, if_pos control] at read
    cases read
  | case12 c left quote backslash printed stop failed =>
    rw [readUnits_plain _ quote backslash (Nat.le_of_not_lt printed), failed] at read
    cases read
  | case13 c left quote backslash printed units behind found ih =>
    have printed := Nat.le_of_not_lt printed
    rw [readUnits_plain _ quote backslash printed, found] at read
    cases read
    obtain ⟨front, rfl, literal⟩ := ih found
    exact ⟨_, rfl, literal.plain quote backslash printed⟩

theorem readText_ok {name : Text} (read : readText text = .ok (name, rest)) :
    ∃ front units, text = front ++ '"' :: rest ∧ IsLiteral front units ∧ joinUnits units = name := by
  unfold readText at read
  split at read
  · cases read
  · rename_i units left found
    cases read
    obtain ⟨front, shape, literal⟩ := readUnits_ok found
    exact ⟨front, units, shape, literal, rfl⟩

theorem IsLiteral.readText {front : Text} {units : List Nat} (literal : IsLiteral front units)
    (rest : Text) : Json.readText (front ++ '"' :: rest) = .ok (joinUnits units, rest) := by
  rw [Json.readText, literal.read]

theorem length_skipSpace_le (text : Text) : (skipSpace text).length ≤ text.length :=
  (List.dropWhile_suffix isSpace).length_le

theorem length_skipSpace {left more : Text} {c : Char} (shape : skipSpace left = c :: more) :
    more.length < left.length := by
  have le := length_skipSpace_le left
  rw [shape] at le
  exact le

theorem length_readText {opened name : Text} (read : readText opened = .ok (name, rest)) :
    rest.length < opened.length := by
  obtain ⟨front, units, rfl, -, -⟩ := readText_ok read
  rw [List.length_append, List.length_cons]
  omega

theorem takeWhole_append (text : Text) : (takeWhole text).1 ++ (takeWhole text).2 = text := by
  unfold takeWhole
  split
  · rfl
  · exact List.takeWhile_append_dropWhile

theorem takeFraction_suffix (text : Text) : (takeFraction text).2 <:+ text := by
  unfold takeFraction
  split
  · split
    · exact List.suffix_refl _
    · exact (List.dropWhile_suffix _).trans (List.suffix_cons _ _)
  · exact List.suffix_refl _

theorem takeSign_suffix (text : Text) : (Number.takeSign text).2 <:+ text := by
  unfold Number.takeSign
  split
  · exact List.suffix_cons _ _
  · exact List.suffix_cons _ _
  · exact List.suffix_refl _

theorem takeExponent_suffix (text : Text) : (takeExponent text).2 <:+ text := by
  unfold takeExponent
  split
  · exact List.suffix_refl _
  · split
    · rename_i c more _
      have behind := (takeSign_suffix more).trans (List.suffix_cons c more)
      dsimp only
      split
      · exact List.suffix_refl _
      · rename_i digits left _ parts
        obtain rfl : (Number.takeSign more).2.dropWhile Text.isDigit = left :=
          congrArg Prod.snd parts
        exact (List.dropWhile_suffix _).trans behind
    · exact List.suffix_refl _

/-- `readMagnitude` consumes at least its digits. -/
theorem length_readMagnitude {start : Nat} {negative : Bool}
    (read : readMagnitude start negative text = .ok (value, rest)) :
    rest.length < text.length := by
  have whole := congrArg List.length (takeWhole_append text)
  rw [List.length_append] at whole
  have fraction := (takeFraction_suffix (takeWhole text).2).length_le
  have exponent := (takeExponent_suffix (takeFraction (takeWhole text).2).2).length_le
  unfold readMagnitude at read
  split at read
  · cases read
  · rename_i digits left nonempty parts
    have positive : 0 < digits.length := List.length_pos_iff.mpr nonempty
    rw [parts] at whole fraction exponent
    dsimp only at read whole fraction exponent
    have same : rest = (takeExponent (takeFraction left).2).2 := by
      split at read
      · split at read
        · cases read
        · cases read
          rfl
      · cases read
        rfl
    rw [same]
    omega

theorem readWord?_ok (found : readWord? text = some (value, rest)) :
    ∃ word, (word, value) ∈ words ∧ text = word ++ rest := by
  obtain ⟨⟨word, held⟩, member, found⟩ := List.exists_of_findSome?_eq_some found
  obtain ⟨left, after, same⟩ := Option.map_eq_some_iff.mp found
  cases same
  exact ⟨word, member, Text.eq_of_after? after⟩

theorem length_readScalar (read : readScalar text = .ok (value, rest)) :
    rest.length < text.length := by
  have nonempty : ∀ word ∈ words, 0 < word.1.length := by decide
  unfold readScalar at read
  split at read
  · rename_i found
    cases read
    obtain ⟨word, member, rfl⟩ := readWord?_ok found
    have positive : 0 < word.length := nonempty _ member
    rw [List.length_append]
    omega
  · split at read
    · exact Nat.lt_succ_of_lt (length_readMagnitude read)
    · exact length_readMagnitude read

/-- Readings consume a nonempty prefix, and do not depend on the fuel if it bounds the length. -/
structure IsSettled (fuel : Nat) : Prop where
  value : ∀ text value rest, readValue fuel text = .ok (value, rest) →
    rest.length < text.length ∧
    ∀ enough, 2 * text.length < enough → readValue enough text = .ok (value, rest)
  items : ∀ text items rest, readItems fuel text = .ok (items, rest) →
    rest.length < text.length ∧
    ∀ enough, 2 * text.length + 1 < enough → readItems enough text = .ok (items, rest)
  entries : ∀ text entries rest, readEntries fuel text = .ok (entries, rest) →
    rest.length < text.length ∧
    ∀ enough, 2 * text.length + 1 < enough → readEntries enough text = .ok (entries, rest)

namespace IsSettled

theorem readsValue (settled : IsSettled fuel) (reads : ReadsValue fuel text value rest) :
    rest.length < text.length ∧
    ∀ enough, 2 * text.length < enough + 1 → ReadsValue enough text value rest := by
  cases reads with
  | text found =>
    have shorter := length_readText found
    exact ⟨Nat.lt_succ_of_lt shorter, fun enough _ => .text found⟩
  | noItems closed =>
    have shorter := length_skipSpace closed
    exact ⟨Nat.lt_succ_of_lt shorter, fun enough _ => .noItems closed⟩
  | @items opened _ items other found =>
    have inside := length_skipSpace_le opened
    obtain ⟨shorter, read⟩ := settled.items _ _ _ found
    rw [List.length_cons]
    exact ⟨by omega, fun enough bound => .items other (read enough (by omega))⟩
  | noEntries closed =>
    have shorter := length_skipSpace closed
    exact ⟨Nat.lt_succ_of_lt shorter, fun enough _ => .noEntries closed⟩
  | @entries opened _ entries other found =>
    have inside := length_skipSpace_le opened
    obtain ⟨shorter, read⟩ := settled.entries _ _ _ found
    rw [List.length_cons]
    exact ⟨by omega, fun enough bound => .entries other (read enough (by omega))⟩
  | scalar other found => exact ⟨length_readScalar found, fun enough _ => .scalar other found⟩

theorem readsItems (settled : IsSettled fuel) {items : List Value}
    (reads : ReadsItems fuel text items rest) :
    rest.length < text.length ∧
    ∀ enough, 2 * text.length < enough → ReadsItems enough text items rest := by
  cases reads with
  | last first closed =>
    obtain ⟨shorter, read⟩ := settled.value _ _ _ first
    have behind := length_skipSpace closed
    exact ⟨Nat.lt_trans behind shorter, fun enough bound => .last (read enough bound) closed⟩
  | @more left more _ item items first comma others =>
    obtain ⟨shorter, read⟩ := settled.value _ _ _ first
    have behind := length_skipSpace comma
    have next := length_skipSpace_le more
    obtain ⟨last, readOthers⟩ := settled.items _ _ _ others
    exact ⟨by omega, fun enough bound =>
      .more (read enough bound) comma (readOthers enough (by omega))⟩

theorem readsEntry (settled : IsSettled fuel) {entry : Value × Value}
    (reads : ReadsEntry fuel text entry rest) :
    rest.length < text.length ∧
    ∀ enough, 2 * text.length < enough → ReadsEntry enough text entry rest := by
  cases reads with
  | @named opened left more _ name value found colon first =>
    have named := length_readText found
    have behind := length_skipSpace colon
    have next := length_skipSpace_le more
    obtain ⟨shorter, read⟩ := settled.value _ _ _ first
    rw [List.length_cons]
    exact ⟨by omega, fun enough bound => .named found colon (read enough (by omega))⟩

theorem readsEntries (settled : IsSettled fuel) {entries : Value.Entries}
    (reads : ReadsEntries fuel text entries rest) :
    rest.length < text.length ∧
    ∀ enough, 2 * text.length < enough → ReadsEntries enough text entries rest := by
  cases reads with
  | last first closed =>
    obtain ⟨shorter, read⟩ := settled.readsEntry first
    have behind := length_skipSpace closed
    exact ⟨Nat.lt_trans behind shorter, fun enough bound => .last (read enough bound) closed⟩
  | @more left more _ entry entries first comma others =>
    obtain ⟨shorter, read⟩ := settled.readsEntry first
    have behind := length_skipSpace comma
    have next := length_skipSpace_le more
    obtain ⟨last, readOthers⟩ := settled.entries _ _ _ others
    exact ⟨by omega, fun enough bound =>
      .more (read enough bound) comma (readOthers enough (by omega))⟩

theorem all (fuel : Nat) : IsSettled fuel := by
  induction fuel with
  | zero => constructor <;> simp [readValue, readItems, readEntries]
  | succ fuel settled =>
    constructor
    · intro text value rest read
      obtain ⟨shorter, reads⟩ := settled.readsValue (readValue_iff.mp read)
      refine ⟨shorter, fun enough bound => ?_⟩
      obtain ⟨enough, rfl⟩ := Nat.exists_eq_succ_of_ne_zero (Nat.ne_zero_of_lt bound)
      exact readValue_iff.mpr (reads enough bound)
    · intro text items rest read
      obtain ⟨shorter, reads⟩ := settled.readsItems (readItems_iff.mp read)
      refine ⟨shorter, fun enough bound => ?_⟩
      obtain ⟨enough, rfl⟩ := Nat.exists_eq_succ_of_ne_zero (Nat.ne_zero_of_lt bound)
      exact readItems_iff.mpr (reads enough (Nat.lt_of_succ_lt_succ bound))
    · intro text entries rest read
      obtain ⟨shorter, reads⟩ := settled.readsEntries (readEntries_iff.mp read)
      refine ⟨shorter, fun enough bound => ?_⟩
      obtain ⟨enough, rfl⟩ := Nat.exists_eq_succ_of_ne_zero (Nat.ne_zero_of_lt bound)
      exact readEntries_iff.mpr (reads enough (Nat.lt_of_succ_lt_succ bound))

end IsSettled

end TypedCatalog.Json
