import TypedCatalog.Text.Utf8

/-! `Utf8.decode?` inverts `Utf8.encode`. -/
namespace TypedCatalog.Text.Utf8

theorem toNat_byte {n : Nat} (small : n < 0x100) : n.toUInt8.toNat = n := by
  rw [Nat.toUInt8_eq, UInt8.toNat_ofNat']
  exact Nat.mod_eq_of_lt small

theorem tail?_byte {n : Nat} (low : n < 0x40) : tail? (0x80 + n).toUInt8 = some n := by
  have byte : (0x80 + n).toUInt8.toNat = 0x80 + n := toNat_byte (by omega)
  have inside : (0x80 ≤ 0x80 + n && 0x80 + n < 0xc0) = true := by
    simp only [Bool.and_eq_true, decide_eq_true_eq]
    omega
  rw [tail?, byte, if_pos inside, Nat.add_sub_cancel_left]

/-- `checked?` accepts the code point of a character if its form is the shortest. -/
theorem checked?_eq {c : Char} {least code : Nat} (same : code = c.toNat)
    (shortest : least ≤ c.toNat) : checked? least code = some c := by
  subst same
  have valid : c.toNat.isValidChar := c.valid
  rw [checked?, dif_pos valid]
  exact if_pos shortest

theorem toNat_lt (c : Char) : c.toNat < 0x110000 := by
  have valid : c.toNat.isValidChar := c.valid
  rcases valid with low | ⟨_, high⟩
  · omega
  · exact high

/-- The lead bytes of a form. -/
theorem inRange {least count n : Nat} (low : n < count) :
    (least ≤ least + n && least + n < least + count) = true := by
  simp only [Bool.and_eq_true, decide_eq_true_eq]
  omega

variable {c : Char} {lead second third last : Nat}

theorem decode?_one (basic : c.toNat < 0x80) (rest : List UInt8) :
    decode? (c.toNat.toUInt8 :: rest) = (decode? rest).map (c :: ·) := by
  have first := toNat_byte (show c.toNat < 0x100 by omega)
  cases rest with
  | nil => simp only [decode?.eq_2, first, basic, if_true, Char.ofNat_toNat]
  | cons next rest => simp only [decode?.eq_3, first, basic, if_true, Char.ofNat_toNat]

theorem decode?_two (small : lead < 0x20) (low : last < 0x40)
    (code : lead * 0x40 + last = c.toNat) (shortest : 0x80 ≤ c.toNat) (rest : List UInt8) :
    decode? ((0xc0 + lead).toUInt8 :: (0x80 + last).toUInt8 :: rest) =
      (decode? rest).map (c :: ·) := by
  have first := toNat_byte (show 0xc0 + lead < 0x100 by omega)
  have long : ¬0xc0 + lead < 0x80 := by omega
  have two := @inRange 0xc0 0x20 lead small
  have read := checked?_eq code shortest
  simp only [decode?.eq_3, first, long, two, tail?_byte low, Nat.add_sub_cancel_left, read,
    if_true, if_false]

theorem decode?_three (small : lead < 0x10) (middle : second < 0x40) (low : last < 0x40)
    (code : (lead * 0x40 + second) * 0x40 + last = c.toNat) (shortest : 0x800 ≤ c.toNat)
    (rest : List UInt8) :
    decode? ((0xe0 + lead).toUInt8 :: (0x80 + second).toUInt8 :: (0x80 + last).toUInt8 :: rest) =
      (decode? rest).map (c :: ·) := by
  have first := toNat_byte (show 0xe0 + lead < 0x100 by omega)
  have long : ¬0xe0 + lead < 0x80 := by omega
  have two : (0xc0 ≤ 0xe0 + lead && 0xe0 + lead < 0xe0) = false := by simp
  have three := @inRange 0xe0 0x10 lead small
  have read := checked?_eq code shortest
  simp only [decode?.eq_3, first, long, two, three, tail?_byte middle, tail?_byte low,
    Nat.add_sub_cancel_left, read, if_true, if_false, Bool.false_eq_true]

theorem decode?_four (small : lead < 8) (middle : second < 0x40) (next : third < 0x40)
    (low : last < 0x40)
    (code : ((lead * 0x40 + second) * 0x40 + third) * 0x40 + last = c.toNat)
    (shortest : 0x10000 ≤ c.toNat) (rest : List UInt8) :
    decode? ((0xf0 + lead).toUInt8 :: (0x80 + second).toUInt8 :: (0x80 + third).toUInt8 ::
      (0x80 + last).toUInt8 :: rest) = (decode? rest).map (c :: ·) := by
  have first := toNat_byte (show 0xf0 + lead < 0x100 by omega)
  have long : ¬0xf0 + lead < 0x80 := by omega
  have two : (0xc0 ≤ 0xf0 + lead && 0xf0 + lead < 0xe0) = false := by
    simp
    omega
  have three : (0xe0 ≤ 0xf0 + lead && 0xf0 + lead < 0xf0) = false := by simp
  have four := @inRange 0xf0 8 lead small
  have read := checked?_eq code shortest
  simp only [decode?.eq_3, first, long, two, three, four, tail?_byte middle, tail?_byte next,
    tail?_byte low, Nat.add_sub_cancel_left, read, if_true, if_false, Bool.false_eq_true]

theorem decode?_char (c : Char) (rest : List UInt8) :
    decode? (encodeChar c ++ rest) = (decode? rest).map (c :: ·) := by
  have bound := toNat_lt c
  simp only [encodeChar]
  split
  · rename_i basic
    exact decode?_one basic rest
  · split
    · exact decode?_two (by omega) (by omega) (by omega) (by omega) rest
    · split
      · exact decode?_three (by omega) (by omega) (by omega) (by omega) (by omega) rest
      · exact decode?_four (by omega) (by omega) (by omega) (by omega) (by omega) (by omega) rest

theorem decode?_encode (text : Text) : decode? (encode text) = some text := by
  induction text with
  | nil => rfl
  | cons c text ih =>
    have split : encode (c :: text) = encodeChar c ++ encode text := rfl
    rw [split, decode?_char, ih, Option.map_some]

end TypedCatalog.Text.Utf8
