import TypedCatalog.File.Links

/-! Targets of links are `IsClear`: since `Links.direct` excludes chains, no link stands at or above
a landing. -/
namespace TypedCatalog

namespace Path

variable {name : Text} {names : List Text} {here : Location}

theorem mem_follow (member : name ∈ follow here names) : name ∈ here ∨ name ∈ names := by
  induction names generalizing here with
  | nil => exact .inl member
  | cons first names ih =>
    unfold follow at member
    split at member
    · rcases ih member with inside | inside
      · exact .inl (List.dropLast_subset here inside)
      · exact .inr (List.mem_cons_of_mem _ inside)
    · rcases ih member with inside | inside
      · rcases List.mem_append.mp inside with inside | inside
        · exact .inl inside
        · rw [List.mem_singleton.mp inside]
          exact .inr List.mem_cons_self
      · exact .inr (List.mem_cons_of_mem _ inside)

theorem follow_mem_passed (here : Location) (names : List Text) :
    follow here names ∈ passed here names := by
  induction names generalizing here with
  | nil => exact List.mem_cons_self
  | cons name names ih =>
    unfold follow passed
    split
    · exact List.mem_cons_of_mem _ (ih _)
    · exact List.mem_cons_of_mem _ (ih _)

theorem start_mem_passed (here : Location) (names : List Text) : here ∈ passed here names := by
  cases names with
  | nil => exact List.mem_cons_self
  | cons name names => exact List.mem_cons_self

end Path

namespace Links

variable {links : Links} {location here : Location} {name : Text} {names : List Text}

/-- No link stands at the location or above it. -/
def IsClear (links : Links) (location : Location) : Prop :=
  ∀ link ∈ links.entries, ¬link.1 <+: location

instance (links : Links) (location : Location) : Decidable (links.IsClear location) :=
  inferInstanceAs (Decidable (∀ link ∈ links.entries, ¬link.1 <+: location))

/-- The locations passed from a location to its landing. -/
def way (links : Links) (location : Location) : List Location :=
  match links.target? location with
  | none => [location]
  | some names => Path.passed [] names

theorem mem_of_target? (found : links.target? location = some names) :
    (location, names) ∈ links.entries := by
  obtain ⟨⟨held, led⟩, first, rfl⟩ := Option.map_eq_some_iff.mp found
  have same : (held == location) = true := by simpa using List.find?_some first
  cases eq_of_beq same
  exact List.mem_of_find?_eq_some first

theorem target?_eq_none_iff :
    links.target? location = none ↔ ∀ link ∈ links.entries, link.1 ≠ location := by
  rw [target?, Option.map_eq_none_iff, List.find?_eq_none]
  simp only [beq_iff_eq, ne_eq]

theorem isClear_of_target? (found : links.target? location = some names) :
    ∀ place ∈ Path.passed [] names, links.IsClear place :=
  links.direct _ (mem_of_target? found)

theorem isClear_root : links.IsClear [] := by
  intro link member
  exact links.direct link member [] (Path.start_mem_passed [] link.2) link member

theorem isClear_of_empty (empty : links.entries = []) (location : Location) :
    links.IsClear location := by
  rw [IsClear, empty]
  exact List.forall_mem_nil _

namespace IsClear

theorem mono (clear : links.IsClear location) (above : here <+: location) : links.IsClear here :=
  fun link member inside => clear link member (inside.trans above)

theorem dropLast (clear : links.IsClear here) : links.IsClear here.dropLast :=
  clear.mono (List.dropLast_prefix here)

theorem target? (clear : links.IsClear location) : links.target? location = none :=
  target?_eq_none_iff.mpr fun link member same => clear link member (same ▸ List.prefix_rfl)

theorem below (clear : links.IsClear here) (free : links.target? (here ++ [name]) = none) :
    links.IsClear (here ++ [name]) := by
  intro link member inside
  rcases List.prefix_concat_iff.mp inside with same | above
  · exact target?_eq_none_iff.mp free link member same
  · exact clear link member above

theorem landing (clear : links.IsClear here) (name : Text) :
    links.IsClear (links.landing (here ++ [name])) := by
  unfold Links.landing
  split
  · rename_i free
    exact clear.below free
  · rename_i names found
    exact isClear_of_target? found _ (Path.follow_mem_passed [] names)

end IsClear

theorem landing_mem_way (location : Location) : links.landing location ∈ links.way location := by
  cases found : links.target? location with
  | none => simp only [landing, way, found, List.mem_singleton]
  | some names =>
    simp only [landing, way, found]
    exact Path.follow_mem_passed [] names

theorem landing_of_target? (free : links.target? location = none) :
    links.landing location = location := by
  rw [landing, free]

/-- Without links `follow` is `Path.follow`. -/
theorem follow_of_empty (empty : links.entries = []) (here : Location) (names : List Text) :
    links.follow here names = Path.follow here names := by
  induction names generalizing here with
  | nil => rfl
  | cons name names ih =>
    have free := (isClear_of_empty empty (here ++ [name])).target?
    rw [follow, Path.follow, landing_of_target? free, ih, ih]

/-- `follow` does not introduce zero characters. -/
theorem noZero_follow (clean : ∀ name ∈ here, ∀ c ∈ name, c.toNat ≠ 0)
    (others : ∀ name ∈ names, ∀ c ∈ name, c.toNat ≠ 0) :
    ∀ name ∈ links.follow here names, ∀ c ∈ name, c.toNat ≠ 0 := by
  induction names generalizing here with
  | nil => exact clean
  | cons first names ih =>
    obtain ⟨initial, others⟩ := List.forall_mem_cons.mp others
    rw [follow]
    split
    · exact ih (fun name member => clean name (List.dropLast_subset here member)) others
    · apply ih _ others
      rw [landing]
      split
      · intro name member
        rcases List.mem_append.mp member with inside | last
        · exact clean name inside
        · rwa [List.mem_singleton.mp last]
      · rename_i target found
        intro name member
        have noZero := links.noZero _ (mem_of_target? found)
        rcases Path.mem_follow member with inside | inside
        · cases inside
        · simp only [Path.hasZero, Path.ofLocation, List.any_eq_false] at noZero
          simpa using noZero name inside

end Links
end TypedCatalog
