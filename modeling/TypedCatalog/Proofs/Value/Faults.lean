import TypedCatalog.Proofs.Fault
import TypedCatalog.Value.Access

/-! The faults of the operations on values: `IsOfValue` faults only, and for `text` exactly
`unwritable`. -/
namespace TypedCatalog.Value

abbrev FailsAsValue {α : Type} (result : Except Fault α) : Prop := FailsOnly Fault.IsOfValue result

theorem text_ok {value : Value} {text : Text} (done : value.text = .ok text) :
    value.isWritable = true ∧ text = value.shown := by
  unfold Value.text at done
  split at done
  · rename_i writable
    exact ⟨writable, (Except.ok.inj done).symm⟩
  · cases done

theorem fails_text (value : Value) : FailsAsValue value.text :=
  .ite (.ok _) (.error (.content .unwritable))

theorem fails_entries (data : Value) : FailsAsValue data.entries := by
  cases data with
  | dict entries => exact .ok entries
  | _ => exact .error (.misuse .noMember)

theorem fails_hasMember (name : Text) (data : Value) : FailsAsValue (data.hasMember name) := by
  unfold hasMember
  split
  · exact .ok _
  · exact .ok _
  · exact .ok _
  · exact .ok _
  · exact .ok _
  · exact .error (.misuse .unsupported)

theorem fails_member (name : Text) (data : Value) : FailsAsValue (data.member name) := by
  unfold member
  split
  · split
    · exact .ok _
    · exact .error (.misuse .missingKey)
  · exact .error (.misuse .unsupported)

theorem fails_pick (data : Value) (names : List Text) : FailsAsValue (data.pick names) := by
  induction names with
  | nil => exact .ok none
  | cons name names ih =>
    unfold pick
    split
    · rename_i fault failed
      exact .error ((fails_hasMember name data).allows failed)
    · exact ih
    · split
      · rename_i fault failed
        exact .error ((fails_member name data).allows failed)
      · exact ih
      · exact .ok _

theorem fails_integerIn (text : Text) : FailsAsValue (integerIn text) := by
  unfold integerIn
  split
  · exact .ok _
  · exact .error (.content _)
  · exact .error (.content _)

theorem fails_ofWhole (n : Int) : FailsAsValue (toBinary64.ofWhole n) := by
  -- The definition is opened before it has its argument; otherwise the bounds of the doubles would
  -- be computed to compare its two forms.
  generalize same : toBinary64.ofWhole = whole
  delta toBinary64.ofWhole at same
  subst same
  generalize Binary64.ofInt? = nearest
  dsimp only
  cases nearest n with
  | none => exact .error (.misuse .overflow)
  | some x => exact .ok x

theorem fails_toBinary64 (data : Value) : FailsAsValue data.toBinary64 := by
  unfold toBinary64
  split
  · exact .ok _
  · exact fails_ofWhole _
  · exact fails_ofWhole _
  · split
    · exact .ok _
    · exact .error (.content _)
  · exact .error (.misuse .unsupported)

theorem fails_toInteger (data : Value) : FailsAsValue data.toInteger := by
  unfold toInteger
  split
  · exact .ok _
  · exact .ok _
  · exact .error (.content .undefinedWhole)
  · split
    · exact .ok _
    · exact .error (.misuse .overflow)
  · exact fails_integerIn _
  · exact .error (.misuse .unsupported)

end TypedCatalog.Value
