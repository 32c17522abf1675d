import Mathlib.Data.List.Forall2
import TypedCatalog.Fault

/-! Inversion lemmas for operations that may fail, and `FailsOnly` for the faults that they raise.
-/
namespace TypedCatalog

variable {α β : Type} {read : α → Except Fault β}

theorem bind_ok {first : Except Fault α} {next : α → Except Fault β} {result : β}
    (run : first >>= next = .ok result) : ∃ value, first = .ok value ∧ next value = .ok result := by
  cases first with
  | error fault => cases run
  | ok value => exact ⟨value, rfl, run⟩

theorem ok_bind (value : α) (next : α → Except Fault β) :
    (Except.ok value >>= next) = next value := rfl

theorem map_ok {first : Except Fault α} {change : α → β} {result : β}
    (run : first.map change = .ok result) : ∃ value, first = .ok value ∧ change value = result := by
  cases first with
  | error fault => cases run
  | ok value => exact ⟨value, rfl, Except.ok.inj run⟩

theorem map_error {first : Except Fault α} {change : α → β} {fault : Fault}
    (run : first.map change = .error fault) : first = .error fault := by
  cases first with
  | error other => exact congrArg Except.error (Except.error.inj run)
  | ok value => cases run

/-- A result with an image under `map` is a success. -/
theorem ok_of_shown {ε : Type} {result : Except ε α} {shows : α → β} {shown : β}
    (done : (result.map shows).toOption = some shown) :
    ∃ value, result = .ok value ∧ shows value = shown := by
  cases result with
  | error fault => cases done
  | ok value => exact ⟨value, rfl, Option.some.inj done⟩

/-- A successful bind in `ExceptT Fault (StateM σ)` splits into two successful steps. -/
theorem action_ok {σ : Type} {before after : σ} {first : ExceptT Fault (StateM σ) α}
    {next : α → ExceptT Fault (StateM σ) β} {result : β}
    (run : (first >>= next) before = (.ok result, after)) :
    ∃ value middle, first before = (.ok value, middle) ∧ next value middle = (.ok result, after) := by
  change (ExceptT.bindCont next (first before).1) (first before).2 = _ at run
  cases done : first before with
  | mk outcome middle =>
    rw [done] at run
    cases outcome with
    | ok value => exact ⟨value, middle, rfl, run⟩
    | error fault => cases run

section Traversals

variable {items : List α} {results : List β}

/-- `mapM` as `List.Forall₂`. -/
theorem mapM_ok_iff : items.mapM read = .ok results ↔
    List.Forall₂ (fun item result => read item = .ok result) items results := by
  constructor
  · intro run
    induction items generalizing results with
    | nil =>
      cases run
      exact .nil
    | cons item items ih =>
      rw [List.mapM_cons] at run
      obtain ⟨first, done, run⟩ := bind_ok run
      obtain ⟨others, rest, same⟩ := bind_ok run
      cases same
      exact .cons done (ih rest)
  · intro pairs
    induction pairs with
    | nil => rfl
    | cons done _ ih =>
      rw [List.mapM_cons, done, ih]
      rfl

/-- Every result comes from a member. -/
theorem mapM_ok (run : items.mapM read = .ok results) :
    ∀ result ∈ results, ∃ item ∈ items, read item = .ok result := by
  have pairs := mapM_ok_iff.mp run
  clear run
  induction pairs with
  | nil => exact List.forall_mem_nil _
  | @cons item first items results done _ ih =>
    refine List.forall_mem_cons.mpr ⟨⟨item, List.mem_cons_self, done⟩, fun result member => ?_⟩
    obtain ⟨found, inside, same⟩ := ih result member
    exact ⟨found, List.mem_cons_of_mem _ inside, same⟩

/-- Every item has a result. -/
theorem mapM_all (run : items.mapM read = .ok results) :
    ∀ item ∈ items, ∃ result, read item = .ok result := by
  have pairs := mapM_ok_iff.mp run
  clear run
  induction pairs with
  | nil => exact List.forall_mem_nil _
  | cons done _ ih => exact List.forall_mem_cons.mpr ⟨⟨_, done⟩, ih⟩

theorem mapM_ok_imp {other : α → Except Fault β}
    (imp : ∀ item result, read item = .ok result → other item = .ok result)
    (run : items.mapM read = .ok results) : items.mapM other = .ok results :=
  mapM_ok_iff.mpr ((mapM_ok_iff.mp run).imp imp)

theorem mapM_map {written : β → α} (back : ∀ result ∈ results, read (written result) = .ok result) :
    (results.map written).mapM read = .ok results := by
  rw [mapM_ok_iff, List.forall₂_map_left_iff, List.forall₂_same]
  exact back

end Traversals

/-- Every failure satisfies the predicate. -/
inductive FailsOnly {ε α : Type} (allowed : ε → Prop) : Except ε α → Prop where
  | ok (value : α) : FailsOnly allowed (.ok value)
  | error {stop : ε} : allowed stop → FailsOnly allowed (.error stop)

namespace FailsOnly

variable {ε γ δ : Type} {allowed wider : ε → Prop} {result : Except ε γ} {next : γ → Except ε δ}

theorem allows {stop : ε} (only : FailsOnly allowed result) (failed : result = .error stop) :
    allowed stop := by
  cases only with
  | ok value => cases failed
  | error holds =>
    cases failed
    exact holds

theorem mono (only : FailsOnly allowed result) (implies : ∀ stop, allowed stop → wider stop) :
    FailsOnly wider result := by
  cases only with
  | ok value => exact .ok value
  | error holds => exact .error (implies _ holds)

theorem bind (first : FailsOnly allowed result)
    (rest : ∀ value, result = .ok value → FailsOnly allowed (next value)) :
    FailsOnly allowed (result >>= next) := by
  cases first with
  | ok value => exact rest value rfl
  | error holds => exact .error holds

theorem map {change : γ → δ} (only : FailsOnly allowed result) :
    FailsOnly allowed (result.map change) := by
  cases only with
  | ok value => exact .ok (change value)
  | error holds => exact .error holds

theorem ite {condition : Prop} [Decidable condition] {other : Except ε γ}
    (first : FailsOnly allowed result) (second : FailsOnly allowed other) :
    FailsOnly allowed (if condition then result else other) := by
  split
  · exact first
  · exact second

/-- A check before the rest of an operation. -/
theorem check {condition : Prop} [Decidable condition] {refused : Except ε Unit}
    {rest : Unit → Except ε γ} (refusal : FailsOnly allowed refused)
    (others : FailsOnly allowed (rest ())) :
    FailsOnly allowed (if condition then refused >>= rest else rest ()) :=
  .ite (refusal.bind fun _ _ => others) others

theorem mapM {items : List γ} (each : ∀ item ∈ items, FailsOnly allowed (next item)) :
    FailsOnly allowed (items.mapM next) := by
  induction items with
  | nil => exact .ok []
  | cons item items ih =>
    obtain ⟨first, others⟩ := List.forall_mem_cons.mp each
    rw [List.mapM_cons]
    exact first.bind fun _ _ => (ih others).bind fun _ _ => .ok _

end FailsOnly

/-- `FailsOnly` in every state. -/
def ActionFailsOnly {σ α : Type} (allowed : Fault → Prop) (action : ExceptT Fault (StateM σ) α) :
    Prop :=
  ∀ state, FailsOnly allowed (action state).1

namespace ActionFailsOnly

variable {σ γ δ : Type} {allowed wider : Fault → Prop} {action : ExceptT Fault (StateM σ) γ}
  {next : γ → ExceptT Fault (StateM σ) δ}

theorem bind (first : ActionFailsOnly allowed action)
    (rest : ∀ value, ActionFailsOnly allowed (next value)) :
    ActionFailsOnly allowed (action >>= next) := by
  intro state
  change FailsOnly allowed (ExceptT.bindCont next (action state).1 (action state).2).1
  cases done : (action state).1 with
  | error fault => exact .error ((first state).allows done)
  | ok value => exact rest value _

theorem lift {result : Except Fault γ} (only : FailsOnly allowed result) :
    ActionFailsOnly allowed (liftM result : ExceptT Fault (StateM σ) γ) := fun _ => only

theorem mono (only : ActionFailsOnly allowed action)
    (implies : ∀ fault, allowed fault → wider fault) : ActionFailsOnly wider action :=
  fun state => (only state).mono implies

end ActionFailsOnly

/-- Faults of a single value: an unsupported operation or malformed content. No `Fault.message`
attributes them to the catalog. -/
inductive Fault.IsOfValue : Fault → Prop where
  | misuse (misuse : Misuse) : IsOfValue (.misuse misuse)
  | content (content : BadContent) : IsOfValue (.content content)

end TypedCatalog
