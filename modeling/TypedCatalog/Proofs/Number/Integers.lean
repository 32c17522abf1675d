import Mathlib.Data.List.Induction
import TypedCatalog.Proofs.Text.Digits

/-! Round trip of integers within the digit limit, and the bound on the digits of every integer that
`readInt` returns. -/
namespace TypedCatalog.Number

open Text (isDigit ofNat ofInt numberOf)

variable {text digits : Text} {n : Int}

theorem digitValue?_basic {c : Char} (digit : isDigit c = true) :
    Text.digitValue? c = some (c.toNat - 48) := by
  have range : 48 ≤ c.toNat ∧ c.toNat ≤ 57 := by
    simpa [isDigit, Char.le_def, UInt32.le_iff_toNat_le] using digit
  simp [Text.digitValue?, Text.zeroDigits, range]

theorem takeDigits_basic (inside : ∀ c ∈ digits, isDigit c = true) :
    takeDigits digits = (digits.map fun c => c.toNat - 48, []) := by
  induction digits with
  | nil => rfl
  | cons c digits ih =>
    obtain ⟨digit, others⟩ := List.forall_mem_cons.mp inside
    have apart : ∀ next after, digits = '_' :: next :: after → False := by
      rintro next after rfl
      exact absurd (others '_' List.mem_cons_self) (by decide)
    simp only [takeDigits, digitValue?_basic digit]
    rw [ih others, List.map_cons]

/-- `trimBy` is the identity without characters of the class. -/
theorem trimBy_of_none {drops : Char → Bool} (kept : ∀ c ∈ text, drops c = false) :
    Text.trimBy drops text = text := by
  have stays {part : Text} (kept : ∀ c ∈ part, drops c = false) : part.dropWhile drops = part := by
    cases part with
    | nil => rfl
    | cons c part =>
      have first : ¬drops c = true := by simp [kept c List.mem_cons_self]
      exact List.dropWhile_cons_of_neg first
  rw [Text.trimBy, stays kept, stays fun c member => kept c (List.mem_reverse.mp member),
    List.reverse_reverse]

/-- The characters of written integers. -/
def marks : List Char := ['-', '0', '1', '2', '3', '4', '5', '6', '7', '8', '9']

theorem mem_marks_ofInt (n : Int) : ∀ c ∈ ofInt n, c ∈ marks := by
  have digits (m : Nat) : ∀ c ∈ ofNat m, c ∈ marks := fun c member =>
    List.mem_cons_of_mem _ (Text.digit_cases (Text.isDigit_ofNat c member))
  cases n with
  | ofNat m => exact digits m
  | negSucc m => exact List.forall_mem_cons.mpr ⟨List.mem_cons_self, digits (m + 1)⟩

/-- A decidable test that no character belongs to a class. -/
theorem none_of_any {chars : List Char} {holds : Char → Bool} (failing : chars.any holds = false) :
    ∀ c ∈ chars, holds c = false := fun c member =>
  Bool.eq_false_iff.mpr (List.any_eq_false.mp failing c member)

theorem takeSign_ofNat (m : Nat) : takeSign (ofNat m) = (false, ofNat m) := by
  unfold takeSign
  split
  · rename_i rest shape
    exact absurd (Text.isDigit_ofNat '-' (shape ▸ List.mem_cons_self)) (by decide)
  · rename_i rest shape
    exact absurd (Text.isDigit_ofNat '+' (shape ▸ List.mem_cons_self)) (by decide)
  · rfl

/-- `takeSign` separates the sign of a written integer. -/
theorem takeSign_ofInt (n : Int) : takeSign (ofInt n) = (decide (n < 0), ofNat n.natAbs) := by
  cases n with
  | ofNat m => exact takeSign_ofNat m
  | negSucc m =>
    have negative : decide (Int.negSucc m < 0) = true := decide_eq_true (Int.negSucc_lt_zero m)
    rw [negative]
    rfl

theorem signed_natAbs (n : Int) : signed (decide (n < 0)) n.natAbs = n := by
  rw [signed]
  by_cases negative : n < 0
  · rw [if_pos (decide_eq_true negative), Int.ofNat_natAbs_of_nonpos negative.le, neg_neg]
  · rw [if_neg (by rwa [decide_eq_true_eq]), Int.natAbs_of_nonneg (not_lt.mp negative)]

/-- `readInt` inverts `ofInt` within the digit limit, and raises `tooLong` beyond it. -/
theorem readInt_ofInt (n : Int) : readInt (ofInt n) =
    if digitLimit < (ofNat n.natAbs).length then .error (.tooLong (ofNat n.natAbs).length)
    else .ok n := by
  have padding : trimPadding (ofInt n) = ofInt n :=
    trimBy_of_none fun c member => none_of_any (by decide) c (mem_marks_ofInt n c member)
  have digits : takeDigits (ofNat n.natAbs) = ((ofNat n.natAbs).map fun c => c.toNat - 48, []) :=
    takeDigits_basic Text.isDigit_ofNat
  have value : ofDigits ((ofNat n.natAbs).map fun c => c.toNat - 48) = n.natAbs :=
    Text.numberOf_ofNat n.natAbs
  rw [readInt, padding, takeSign_ofInt]
  simp only [digits, value, signed_natAbs, List.length_map, List.map_eq_nil_iff,
    Text.ofNat_ne_nil, List.head?_nil]
  rfl

theorem digitValue?_lt {c : Char} {d : Nat} (digit : Text.digitValue? c = some d) : d < 10 := by
  obtain ⟨first, found, rfl⟩ := Option.map_eq_some_iff.mp digit
  have range := List.find?_some found
  simp only [Bool.and_eq_true, decide_eq_true_eq] at range
  omega

theorem takeDigits_lt (text : Text) : ∀ d ∈ (takeDigits text).1, d < 10 := by
  fun_induction takeDigits text with
  | case1 => exact List.forall_mem_nil _
  | case2 => exact List.forall_mem_nil _
  | case3 _ _ digit _ _ _ _ _ found others =>
    rw [found] at others
    exact List.forall_mem_cons.mpr ⟨digitValue?_lt digit, others⟩
  | case4 _ _ digit => exact List.forall_mem_singleton.mpr (digitValue?_lt digit)
  | case5 _ _ digit _ _ _ _ found others =>
    rw [found] at others
    exact List.forall_mem_cons.mpr ⟨digitValue?_lt digit, others⟩

theorem ofDigits_lt {digits : List Nat} (small : ∀ d ∈ digits, d < 10) :
    ofDigits digits < 10 ^ digits.length := by
  induction digits using List.reverseRecOn with
  | nil => decide
  | append_singleton digits d ih =>
    have last := small d (by simp)
    have others := ih fun e member => small e (by simp [member])
    rw [ofDigits] at others ⊢
    rw [List.foldl_append, List.length_append, List.length_singleton, Nat.pow_succ]
    simp only [List.foldl_cons, List.foldl_nil]
    omega

theorem natAbs_signed (negative : Bool) (m : Nat) : (signed negative m).natAbs = m := by
  cases negative with
  | false => exact Int.natAbs_natCast m
  | true => exact (Int.natAbs_neg _).trans (Int.natAbs_natCast m)

/-- `readInt` returns integers within the digit limit only. -/
theorem length_of_readInt (read : readInt text = .ok n) :
    (ofNat n.natAbs).length ≤ digitLimit := by
  unfold readInt at read
  dsimp only at read
  split at read
  · cases read
  · rename_i filled
    split at read
    · cases read
    · rename_i short
      split at read
      · cases read
      · cases read
        have nonempty : (takeDigits (takeSign (trimPadding text)).2).1 ≠ [] := by
          intro empty
          simp [empty] at filled
        rw [natAbs_signed]
        have bound := ofDigits_lt (takeDigits_lt (takeSign (trimPadding text)).2)
        have positive := List.length_pos_iff.mpr nonempty
        have length := (Nat.length_toDigits_le_iff (by decide) positive).mpr bound
        exact length.trans (Nat.le_of_not_lt short)

end TypedCatalog.Number
