import TypedCatalog.Text.Basic

/-! Text without carriage returns, on which `joinLineEnds` is the identity. -/
namespace TypedCatalog

namespace Text

theorem join_cons (between first second : Text) (rest : List Text) :
    join between (first :: second :: rest) =
      first ++ (between ++ join between (second :: rest)) := by
  rw [Text.join, List.append_assoc]
  exact List.cons_ne_nil second rest

/-- The first character of a join is that of its first piece. -/
theorem join_cons_head (between : Text) (c : Char) (piece : Text) (pieces : List Text) :
    join between ((c :: piece) :: pieces) = c :: join between (piece :: pieces) := by
  cases pieces with
  | nil => rfl
  | cons next pieces => rfl

end Text

/-- No carriage return occurs in the text. -/
def IsClean (text : Text) : Prop := '\r' ∉ text

instance : DecidablePred IsClean := fun text => inferInstanceAs (Decidable ('\r' ∉ text))

namespace IsClean

variable {text more : Text}

theorem nil : IsClean [] := List.not_mem_nil

theorem append (clean : IsClean text) (others : IsClean more) : IsClean (text ++ more) := by
  simpa [IsClean] using ⟨clean, others⟩

theorem cons {c : Char} (other : c ≠ '\r') (clean : IsClean text) : IsClean (c :: text) := by
  simpa [IsClean] using ⟨Ne.symm other, clean⟩

/-- Text over a class without the carriage return is clean. -/
theorem of_class {holds : Char → Bool} (other : holds '\r' = false)
    (inside : ∀ c ∈ text, holds c = true) : IsClean text := by
  intro member
  rw [inside _ member] at other
  contradiction

theorem of_subset (clean : IsClean more) (inside : ∀ c ∈ text, c ∈ more) : IsClean text :=
  fun member => clean (inside _ member)

theorem flatMap {α : Type} {items : List α} {written : α → Text}
    (clean : ∀ item ∈ items, IsClean (written item)) : IsClean (items.flatMap written) := by
  intro member
  obtain ⟨item, found, member⟩ := List.mem_flatMap.mp member
  exact clean item found member

theorem join {between : Text} {parts : List Text} (clean : IsClean between)
    (others : ∀ part ∈ parts, IsClean part) : IsClean (Text.join between parts) := by
  induction parts with
  | nil => exact nil
  | cons part parts ih =>
    obtain ⟨first, others⟩ := List.forall_mem_cons.mp others
    cases parts with
    | nil => exact first
    | cons second parts =>
      rw [Text.join_cons]
      exact first.append (clean.append (ih others))

theorem replicate (count : Nat) {c : Char} (other : c ≠ '\r') :
    IsClean (List.replicate count c) := fun member => other (List.eq_of_mem_replicate member).symm

end IsClean

end TypedCatalog
