import TypedCatalog.Proofs.Json.RoundTrip
import TypedCatalog.Proofs.Text.Clean

/-! `Json.write` produces no carriage return. -/
namespace TypedCatalog

theorem isClean_ofNat (n : Nat) : IsClean (Text.ofNat n) := .of_class rfl Text.isDigit_ofNat

theorem isClean_ofInt (n : Int) : IsClean (Text.ofInt n) := by
  cases n with
  | ofNat n => exact isClean_ofNat n
  | negSucc n => exact .cons (by decide) (isClean_ofNat (n + 1))

theorem isClean_ofNatPadded (width n : Nat) : IsClean (Text.ofNatPadded width n) :=
  (IsClean.replicate _ (by decide)).append (isClean_ofNat n)

namespace Binary64

theorem isClean_positional {digits : Text} (clean : IsClean digits) (whole : Int) :
    IsClean (positional digits whole) := by
  have zeros (count : Nat) : IsClean (List.replicate count '0') := .replicate count (by decide)
  unfold positional
  split
  · exact IsClean.append (by decide) clean
  · split
    · refine IsClean.append (clean.of_subset fun c => List.mem_of_mem_take) (.cons (by decide) ?_)
      exact clean.of_subset fun c => List.mem_of_mem_drop
    · exact (clean.append (zeros _)).append (by decide)
  · exact .cons (by decide) (.cons (by decide) ((zeros _).append clean))

theorem isClean_scientific {digits : Text} (clean : IsClean digits) (exponent : Int) :
    IsClean (scientific digits exponent) := by
  simp only [scientific]
  refine IsClean.append (IsClean.append (IsClean.append ?_ ?_) ?_) (isClean_ofNatPadded _ _)
  · exact clean.of_subset fun c => List.mem_of_mem_take
  · split
    · exact .nil
    · exact .cons (by decide) (clean.of_subset fun c => List.mem_of_mem_drop)
  · split <;> decide

theorem isClean_write {shape : Shape} (infinity : IsClean shape.infinity)
    (undefined : IsClean shape.undefined) (x : Binary64) : IsClean (x.write shape) := by
  have sign (negative : Bool) : IsClean (sign negative) := by cases negative <;> decide
  cases x with
  | finite negative units =>
    refine (sign negative).append ?_
    simp only [magnitude]
    split
    · decide
    · split
      · exact isClean_positional (isClean_ofNat _) _
      · exact isClean_scientific (isClean_ofNat _) _
  | infinite negative => exact (sign negative).append infinity
  | undefined => exact undefined

end Binary64

namespace Json

theorem isClean_literal (text : Text) : IsClean (literal text) :=
  fun member => absurd (isPrinted_literal text '\r' member) (by decide)

theorem isClean_newLine (depth : Nat) : IsClean (newLine depth) :=
  .cons (by decide) (.replicate _ (by decide))

theorem isClean_block {depth : Nat} {opening closing : Char} {parts : List Text}
    (opens : opening ≠ '\r') (closes : closing ≠ '\r') (clean : ∀ part ∈ parts, IsClean part) :
    IsClean (block depth opening closing parts) := by
  have between := IsClean.cons (show ',' ≠ '\r' by decide) (isClean_newLine (depth + 1))
  have last := IsClean.cons closes .nil
  unfold block
  split
  · exact .cons opens last
  · exact .append (.append (.append (.cons opens (isClean_newLine _)) (.join between clean))
      (isClean_newLine _)) last

theorem isClean_writeAt {value : Value} (document : IsDocument value) (depth : Nat) :
    IsClean (writeAt depth value) := by
  induction document generalizing depth with
  | null => exact show IsClean "null" by decide
  | bool b =>
    cases b with
    | false => exact show IsClean "false" by decide
    | true => exact show IsClean "true" by decide
  | int _ => exact isClean_ofInt _
  | float _ => exact Binary64.isClean_write (by decide) (by decide) _
  | str text => exact isClean_literal text
  | list _ clean =>
    rw [writeAt, writeItems_eq]
    apply isClean_block (by decide) (by decide)
    intro part member
    obtain ⟨item, found, rfl⟩ := List.mem_map.mp member
    exact clean item found (depth + 1)
  | @dict fields _ _ clean =>
    have shape : Value.ofFields fields =
        .dict (fields.map fun field => (.str field.1, field.2)) := rfl
    rw [shape, writeAt, writeEntries_eq]
    apply isClean_block (by decide) (by decide)
    intro part member
    obtain ⟨field, found, rfl⟩ := List.mem_map.mp member
    exact .append ((isClean_literal _).append (by decide)) (clean field found (depth + 1))

theorem isClean_write {value : Value} (document : IsDocument value) : IsClean (write value) :=
  isClean_writeAt document 0

end Json
end TypedCatalog
