import Mathlib.Tactic.Ring
import TypedCatalog.Text.Case

/-! Idempotence of `Text.lower` and `Text.upper`. No image of the case tables is in their domain,
which is decided on sets of code points represented as bits of a number. -/
namespace TypedCatalog.Text

def bits (codes : List Nat) : Nat := codes.foldr (fun code held => 2 ^ code ||| held) 0

theorem testBit_bits (codes : List Nat) (code : Nat) :
    (bits codes).testBit code = decide (code ∈ codes) := by
  induction codes with
  | nil => simp [bits]
  | cons first codes ih =>
    have split : bits (first :: codes) = 2 ^ first ||| bits codes := rfl
    rw [split, Nat.testBit_or, ih, Nat.testBit_two_pow]
    simp [eq_comm]

theorem not_mem_of_bits {codes others : List Nat} (disjoint : bits codes &&& bits others = 0)
    {code : Nat} (member : code ∈ codes) : code ∉ others := by
  have bit := congrArg (·.testBit code) disjoint
  simpa [testBit_bits, member] using bit

def CaseRun.codes (run : CaseRun) : List Nat :=
  List.range' run.first ((run.last - run.first) / run.step + 1) run.step

theorem CaseRun.mem_codes {run : CaseRun} {code : Nat} (holds : run.holds code = true) :
    code ∈ run.codes := by
  simp only [CaseRun.holds, Bool.and_eq_true, decide_eq_true_eq, beq_iff_eq] at holds
  obtain ⟨⟨low, high⟩, onStep⟩ := holds
  refine List.mem_range'.mpr ⟨(code - run.first) / run.step, ?_, ?_⟩
  · exact Nat.lt_succ_of_le (Nat.div_le_div_right (Nat.sub_le_sub_right high _))
  · rw [Nat.mul_div_cancel' (Nat.dvd_of_mod_eq_zero onStep)]
    omega

section Table

variable (expansions : List (Nat × List Nat)) (runs : List CaseRun)

/-- The domain of a case table. -/
def sources : List Nat := runs.flatMap CaseRun.codes ++ expansions.map Prod.fst

/-- The characters of the images of a case table. -/
def targets : List Nat :=
  runs.flatMap (fun run => run.codes.map fun code => (moveBy code run.distance).toNat) ++
    expansions.flatMap fun entry => entry.2.map fun code => (Char.ofNat code).toNat

variable {expansions runs}

theorem mapCase_stays {c : Char} (other : c.toNat ∉ sources expansions runs) :
    mapCase expansions runs c = [c] := by
  simp only [sources, List.mem_append, not_or] at other
  have expansion : expansions.find? (fun entry => entry.1 == c.toNat) = none := by
    rw [List.find?_eq_none]
    intro entry member same
    exact other.2 (List.mem_map.mpr ⟨entry, member, by simpa using same⟩)
  have run : runs.find? (fun run => run.holds c.toNat) = none := by
    rw [List.find?_eq_none]
    intro run member holds
    exact other.1 (List.mem_flatMap.mpr ⟨run, member, CaseRun.mem_codes holds⟩)
  simp only [mapCase, expansion, run]

theorem mapCase_cases {c d : Char} (member : d ∈ mapCase expansions runs c) :
    d = c ∧ mapCase expansions runs c = [c] ∨ d.toNat ∈ targets expansions runs := by
  unfold mapCase at member ⊢
  split at member
  · rename_i entry codes found
    obtain ⟨code, inside, rfl⟩ := List.mem_map.mp member
    right
    refine List.mem_append_right _ (List.mem_flatMap.mpr ⟨_, List.mem_of_find?_eq_some found, ?_⟩)
    exact List.mem_map.mpr ⟨code, inside, rfl⟩
  · split at member
    · rename_i run found
      obtain rfl := List.mem_singleton.mp member
      right
      have holds := List.find?_some found
      refine List.mem_append_left _ (List.mem_flatMap.mpr ⟨run, List.mem_of_find?_eq_some found, ?_⟩)
      exact List.mem_map.mpr ⟨c.toNat, CaseRun.mem_codes holds, rfl⟩
    · exact .inl ⟨List.mem_singleton.mp member, rfl⟩

/-- The form maps ASCII letters by a rule and all others by a table. -/
structure IsForm (expansions : List (Nat × List Nat)) (runs : List CaseRun)
    (form : Char → Text) (ascii : Char → Char) : Prop where
  shape : ∀ c, form c = if c.toNat < 0x80 then [ascii c] else mapCase expansions runs c
  again : ∀ n < 0x80, ascii (ascii (Char.ofNat n)) = ascii (Char.ofNat n) ∧
    (ascii (Char.ofNat n)).toNat < 0x80
  listed : ∀ n < 0x80, ascii (Char.ofNat n) = Char.ofNat n ∨
    ∃ run ∈ runs, run.holds n = true
  disjoint : bits (targets expansions runs) &&& bits (sources expansions runs) = 0

/-- Characters of images are fixed points of the form. -/
theorem IsForm.stays {form : Char → Text} {ascii : Char → Char}
    (isForm : IsForm expansions runs form ascii) {c d : Char}
    (member : d ∈ form c) : form d = [d] := by
  by_cases basic : c.toNat < 0x80
  · rw [isForm.shape, if_pos basic, List.mem_singleton] at member
    obtain ⟨again, low⟩ := isForm.again c.toNat basic
    rw [Char.ofNat_toNat, ← member] at again low
    rw [isForm.shape, if_pos low, again]
  · rw [isForm.shape, if_neg basic] at member
    rcases mapCase_cases member with ⟨rfl, stays⟩ | target
    · rw [isForm.shape, if_neg basic, stays]
    · have other := not_mem_of_bits isForm.disjoint target
      rw [isForm.shape]
      split
      · rename_i low
        rcases isForm.listed d.toNat low with fixed | ⟨run, listed, holds⟩
        · rw [Char.ofNat_toNat] at fixed
          rw [fixed]
        · exact absurd (List.mem_append_left _
            (List.mem_flatMap.mpr ⟨run, listed, CaseRun.mem_codes holds⟩)) other
      · exact mapCase_stays other

end Table

theorem isForm_lower : IsForm lowerExpansions lowerRuns lowerChar lowerAscii where
  shape := fun _ => rfl
  again := by decide
  listed := by
    have letters : ∀ n < 0x80, lowerAscii (Char.ofNat n) = Char.ofNat n ∨
        CaseRun.holds ⟨0x41, 0x5a, 1, 32⟩ n = true := by decide
    intro n low
    apply (letters n low).imp_right
    intro holds
    exact ⟨_, List.mem_cons_self, holds⟩
  disjoint := by decide +kernel

theorem isForm_upper : IsForm upperExpansions upperRuns upperChar upperAscii where
  shape := fun _ => rfl
  again := by decide
  listed := by
    have letters : ∀ n < 0x80, upperAscii (Char.ofNat n) = Char.ofNat n ∨
        CaseRun.holds ⟨0x61, 0x7a, 1, -32⟩ n = true := by decide
    intro n low
    apply (letters n low).imp_right
    intro holds
    exact ⟨_, List.mem_cons_self, holds⟩
  disjoint := by decide +kernel

theorem flatMap_stays {form : Char → Text} {text : Text} (stays : ∀ c ∈ text, form c = [c]) :
    text.flatMap form = text := by
  induction text with
  | nil => rfl
  | cons c text ih =>
    rw [List.flatMap_cons, stays c (by simp), ih fun d member => stays d (by simp [member])]
    rfl

/-- `upper` is idempotent. -/
theorem upper_upper (text : Text) : upper (upper text) = upper text := by
  apply flatMap_stays
  intro d member
  obtain ⟨c, _, member⟩ := List.mem_flatMap.mp member
  exact isForm_upper.stays member

theorem upperChar_ne_nil (c : Char) : upperChar c ≠ [] := by
  have expanded : ∀ entry ∈ upperExpansions, entry.2 ≠ [] := by decide
  unfold upperChar mapCase
  split
  · simp
  · split
    · rename_i entry codes found
      simpa using expanded _ (List.mem_of_find?_eq_some found)
    · split <;> simp

theorem upper_ne_nil {text : Text} (nonempty : text ≠ []) : upper text ≠ [] := by
  obtain ⟨c, rest, rfl⟩ := List.exists_cons_of_ne_nil nonempty
  simp [upper, upperChar_ne_nil c]

/-- A fixed point of lower case at every position. -/
def IsLower (c : Char) : Prop := lowerChar c = [c] ∧ c.toNat ≠ 0x3a3

theorem isLower_sigma : IsLower (Char.ofNat 0x3c2) ∧ IsLower (Char.ofNat 0x3c3) := by
  unfold IsLower
  decide +kernel

theorem isLower_lowerChar {c d : Char} (member : d ∈ lowerChar c) : IsLower d := by
  have stays := isForm_lower.stays member
  apply And.intro stays
  intro sigma
  have capital : lowerChar (Char.ofNat 0x3a3) ≠ [Char.ofNat 0x3a3] := by decide +kernel
  rw [← sigma, Char.ofNat_toNat] at capital
  exact capital stays

/-- The characters of `lowerAfter`: forms of a capital sigma, or of single characters. -/
theorem mem_lowerAfter {before text : Text} {d : Char} (member : d ∈ lowerAfter before text) :
    d = Char.ofNat 0x3c2 ∨ d = Char.ofNat 0x3c3 ∨ ∃ c ∈ text, d ∈ lowerChar c := by
  induction text generalizing before with
  | nil => cases member
  | cons c text ih =>
    rcases List.mem_append.mp member with member | member
    · split at member
      · split at member
        · exact .inl (List.mem_singleton.mp member)
        · exact .inr (.inl (List.mem_singleton.mp member))
      · exact .inr (.inr ⟨c, List.mem_cons_self, member⟩)
    · rcases ih member with last | inside | ⟨c, held, member⟩
      · exact .inl last
      · exact .inr (.inl inside)
      · exact .inr (.inr ⟨c, List.mem_cons_of_mem _ held, member⟩)

theorem isLower_lowerAfter {before text : Text} : ∀ d ∈ lowerAfter before text, IsLower d := by
  intro d member
  rcases mem_lowerAfter member with rfl | rfl | ⟨c, -, member⟩
  · exact isLower_sigma.1
  · exact isLower_sigma.2
  · exact isLower_lowerChar member

theorem lowerAfter_stays {before text : Text} (lower : ∀ c ∈ text, IsLower c) :
    lowerAfter before text = text := by
  induction text generalizing before with
  | nil => rfl
  | cons c text ih =>
    obtain ⟨stays, notSigma⟩ := lower c (by simp)
    rw [lowerAfter, if_neg notSigma, stays, ih fun d member => lower d (by simp [member])]
    rfl

/-- `lower` is idempotent. -/
theorem lower_lower (text : Text) : lower (lower text) = lower text :=
  lowerAfter_stays isLower_lowerAfter

theorem targets_lower : ∀ code ∈ targets lowerExpansions lowerRuns,
    code < 0x80 → isLower (Char.ofNat code) = true := by decide +kernel

theorem eq_of_lowerAscii {c d : Char} (letter : isLower d = false) (form : lowerAscii c = d)
    (basic : c.toNat < 0x80) : c = d := by
  have letters : ∀ n < 0x80, isLower (lowerAscii (Char.ofNat n)) = false →
      Char.ofNat n = lowerAscii (Char.ofNat n) := by decide
  have other := letters c.toNat basic
  rw [Char.ofNat_toNat, form] at other
  exact other letter

/-- An ASCII character that is no small letter has no other preimage under `lowerChar`. -/
theorem eq_of_mem_lowerChar {c d : Char} (basic : d.toNat < 0x80) (letter : isLower d = false)
    (member : d ∈ lowerChar c) : c = d := by
  unfold lowerChar at member
  split at member
  · rename_i low
    exact eq_of_lowerAscii letter (List.mem_singleton.mp member).symm low
  · rcases mapCase_cases member with ⟨same, -⟩ | target
    · exact same.symm
    · have form := targets_lower _ target basic
      rw [Char.ofNat_toNat, letter] at form
      contradiction

theorem mem_of_mem_lower {d : Char} {text : Text} (basic : d.toNat < 0x80)
    (letter : isLower d = false) (member : d ∈ lower text) : d ∈ text := by
  rcases mem_lowerAfter member with rfl | rfl | ⟨c, held, member⟩
  · exact absurd basic (by decide)
  · exact absurd basic (by decide)
  · exact eq_of_mem_lowerChar basic letter member ▸ held

/-- Without a capital sigma, `lower` is `flatMap lowerChar`. -/
theorem lower_flatMap {text : Text} (free : ∀ c ∈ text, c.toNat ≠ 0x3a3) :
    lower text = text.flatMap lowerChar := by
  have general : ∀ before, lowerAfter before text = text.flatMap lowerChar := by
    induction text with
    | nil => exact fun _ => rfl
    | cons c text ih =>
      obtain ⟨other, free⟩ := List.forall_mem_cons.mp free
      intro before
      rw [lowerAfter, if_neg other, ih free, List.flatMap_cons]
  exact general []

/-- An uncased character that ends a word, so that lower case is computed independently on both
sides. -/
structure IsMark (c : Char) : Prop where
  lower : IsLower c
  uncased : isCased c = false
  ends : isCaseIgnorable c = false

theorem isMark_bracket : IsMark '[' :=
  ⟨⟨rfl, by decide⟩, by decide +kernel, by decide +kernel⟩

theorem isMark_underscore : IsMark '_' :=
  ⟨⟨rfl, by decide⟩, by decide +kernel, by decide +kernel⟩

theorem isMark_opening : IsMark '(' :=
  ⟨⟨rfl, by decide⟩, by decide +kernel, by decide +kernel⟩

theorem isMark_closing : IsMark ')' :=
  ⟨⟨rfl, by decide⟩, by decide +kernel, by decide +kernel⟩

namespace IsMark

variable {c : Char}

theorem nextIsCased (mark : IsMark c) (text rest : Text) :
    nextIsCased (text ++ c :: rest) = Text.nextIsCased text := by
  induction text with
  | nil => simp [Text.nextIsCased, mark.ends, mark.uncased]
  | cons d text ih =>
    rw [Text.nextIsCased, Text.nextIsCased] at ih ⊢
    cases passed : isCaseIgnorable d with
    | true => simpa [passed] using ih
    | false => simp [passed]

theorem lowerAfter_far (mark : IsMark c) (before far text : Text) :
    lowerAfter (before ++ c :: far) text = lowerAfter before text := by
  induction text generalizing before with
  | nil => rfl
  | cons d text ih => rw [lowerAfter, lowerAfter, mark.nextIsCased, ← List.cons_append, ih]

theorem lowerAfter_cons (mark : IsMark c) (before text : Text) :
    lowerAfter before (c :: text) = c :: Text.lower text := by
  have alone : lowerAfter (c :: before) text = lowerAfter [] text :=
    mark.lowerAfter_far [] before text
  rw [lowerAfter, if_neg mark.lower.2, mark.lower.1, alone]
  rfl

theorem lower_append (mark : IsMark c) (text rest : Text) :
    Text.lower (text ++ c :: rest) = Text.lower text ++ c :: Text.lower rest := by
  have general : ∀ before, lowerAfter before (text ++ c :: rest) =
      lowerAfter before text ++ c :: Text.lower rest := by
    induction text with
    | nil =>
      intro before
      exact mark.lowerAfter_cons before rest
    | cons d text ih =>
      intro before
      rw [List.cons_append, lowerAfter, lowerAfter, mark.nextIsCased, ih, List.append_assoc]
  exact general []

end IsMark

end TypedCatalog.Text
