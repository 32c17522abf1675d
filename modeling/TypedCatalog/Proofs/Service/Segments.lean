import TypedCatalog.Proofs.Text.Split
import TypedCatalog.Service.Url

/-! Paths as lists of segments, and prefixes between them. -/
namespace TypedCatalog

section Beginnings

variable {start text rest more : Text} {mark : Char}

/-- A prefix without the separator ends before it. -/
theorem prefix_mark (absent : mark ∉ start) :
    start <+: text ++ mark :: rest ↔ start <+: text := by
  constructor
  · intro begins
    rcases List.prefix_or_prefix_of_prefix begins (List.prefix_append text _) with inside | beyond
    · exact inside
    · obtain ⟨tail, rfl⟩ := beyond
      rw [List.prefix_append_right_inj] at begins
      cases tail with
      | nil => exact (List.append_nil text).symm ▸ List.prefix_refl text
      | cons c tail =>
        cases (List.cons_prefix_cons.mp begins).1
        exact absurd (List.mem_append_right _ List.mem_cons_self) absent
  · intro begins
    exact begins.trans (List.prefix_append text _)

/-- Prefixes of texts that continue with a separator agree up to it. -/
theorem prefix_block {stops : Char → Bool} (stop : stops mark = true)
    (first : ∀ c ∈ start, stops c = false) (second : ∀ c ∈ text, stops c = false)
    (ends : ∀ c ∈ more.head?, stops c = true) :
    start ++ mark :: rest <+: text ++ more ↔ start = text ∧ mark :: rest <+: more := by
  induction start generalizing text with
  | nil =>
    cases text with
    | nil => simp
    | cons c text =>
      have other : mark ≠ c := by
        rintro rfl
        rw [second mark List.mem_cons_self] at stop
        cases stop
      simp [other]
  | cons d start ih =>
    obtain ⟨free, first⟩ := List.forall_mem_cons.mp first
    cases text with
    | nil =>
      apply iff_of_false
      · intro begins
        cases more with
        | nil => cases List.prefix_nil.mp begins
        | cons c more =>
          cases (List.cons_prefix_cons.mp begins).1
          rw [ends d rfl] at free
          cases free
      · intro same
        cases same.1
    | cons c text =>
      rw [List.cons_append, List.cons_append, List.cons_prefix_cons,
        ih first (List.forall_mem_cons.mp second).2, List.cons.injEq, and_assoc]

end Beginnings

namespace Url

/-- Each segment between slashes. -/
def directory (segments : List Text) : Text := '/' :: segments.flatMap (· ++ ['/'])

theorem directory_cons (first : Text) (segments : List Text) :
    directory (first :: segments) = '/' :: (first ++ directory segments) := by
  simp [directory]

/-- No name contains a slash. -/
def AreSegments (names : List Text) : Prop := ∀ name ∈ names, '/' ∉ name

theorem not_slash {name : Text} (segment : '/' ∉ name) :
    ∀ c ∈ name, decide (c = '/') = false := by
  intro c member
  apply decide_eq_false
  rintro rfl
  exact segment member

theorem splitOn_directory {segments : List Text} (whole : AreSegments segments) :
    Text.splitOn '/' (directory segments) = [] :: segments ++ [[]] := by
  rw [directory, Text.splitOn, if_pos rfl, Text.splitOn_flatMap whole, List.cons_append]

/-- A path begins with a directory if and only if its names begin with the segments and continue. -/
theorem directory_prefix {segments names : List Text} (whole : AreSegments segments)
    (others : AreSegments names) (nonempty : names ≠ []) :
    directory segments <+: '/' :: Text.join ['/'] names ↔
      segments <+: names ∧ segments.length < names.length := by
  induction segments generalizing names with
  | nil => simp [directory, List.length_pos_iff.mpr nonempty]
  | cons first segments ih =>
    obtain ⟨name, names, rfl⟩ := List.exists_cons_of_ne_nil nonempty
    obtain ⟨segment, whole⟩ := List.forall_mem_cons.mp whole
    obtain ⟨other, others⟩ := List.forall_mem_cons.mp others
    rw [directory_cons, List.cons_prefix_cons, List.cons_prefix_cons]
    have shape : directory segments = '/' :: segments.flatMap (· ++ ['/']) := rfl
    cases names with
    | nil =>
      have short : Text.join ['/'] [name] = name ++ [] := (List.append_nil name).symm
      rw [shape, short, prefix_block (by decide) (not_slash segment) (not_slash other) (by simp)]
      simp
    | cons second names =>
      have step := ih whole others (List.cons_ne_nil second names)
      rw [shape] at step ⊢
      rw [Text.join_cons_cons,
        prefix_block (by decide) (not_slash segment) (not_slash other) (by simp), step]
      simp [and_assoc]

end Url
end TypedCatalog
