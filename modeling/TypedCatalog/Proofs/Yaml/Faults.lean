import TypedCatalog.Proofs.Value.Faults
import TypedCatalog.Proofs.Yaml.NodeFaults
import TypedCatalog.Yaml.Reader

/-! `Yaml.read` fails because the text is no YAML, or with a fault of a scalar value
(`Fault.IsOfValue`). -/
namespace TypedCatalog.Yaml

open Value

theorem fails_readRadix (radix : Nat) (text : Text) : FailsAsValue (readRadix radix text) := by
  unfold readRadix
  dsimp only
  split
  · exact .ok _
  · exact .error (.content _)

theorem fails_splitSign (text : Text) : FailsAsValue (splitSign text) := by
  unfold splitSign
  split
  · exact .error (.misuse .missingItem)
  · exact .ok _
  · exact .ok _
  · exact .ok _

theorem fails_readInt (text : Text) : FailsAsValue (readInt text) := by
  refine (fails_splitSign _).bind ?_
  rintro ⟨negative, digits⟩ -
  dsimp only
  split
  · exact .error (.misuse .missingItem)
  · exact .ok _
  · exact (fails_readRadix _ _).bind fun _ _ => .ok _
  · exact (fails_readRadix _ _).bind fun _ _ => .ok _
  · exact (fails_readRadix _ _).bind fun _ _ => .ok _
  · refine .ite ?_ ((fails_integerIn _).bind fun _ _ => .ok _)
    exact (FailsOnly.mapM fun part _ => fails_integerIn part).bind fun _ _ => .ok _

theorem fails_sixtiesFrom (scale : Int) (sum : Binary64) (digits : List Binary64) :
    FailsAsValue (sixtiesFrom scale sum digits) := by
  induction digits generalizing scale sum with
  | nil => exact .ok sum
  | cons digit digits ih =>
    unfold sixtiesFrom
    exact (fails_ofWhole _).bind fun _ _ => ih _ _

theorem fails_readFloat (text : Text) : FailsAsValue (readFloat text) := by
  refine (fails_splitSign _).bind ?_
  rintro ⟨negative, digits⟩ -
  refine .ite (.ok _) <| .ite (.ok _) <| .ite ?_ ((fails_toBinary64 _).bind fun _ _ => .ok _)
  exact (FailsOnly.mapM fun part _ => fails_toBinary64 (.str part)).bind fun _ _ =>
    (fails_sixtiesFrom _ _ _).bind fun _ _ => .ok _

theorem fails_readBool (text : Text) : FailsAsValue (readBool text) :=
  .ite (.ok true) <| .ite (.ok false) <| .error (.misuse .missingKey)

theorem fails_checked {α : Type} (wrap : α → Value) (result : Except CalendarFault α) :
    FailsAsValue (checked wrap result) := by
  cases result with
  | ok x => exact .ok (wrap x)
  | error fault => exact .error (.content (.calendar fault))

theorem fails_readTime (text : Text) : FailsAsValue (readTime text) := by
  unfold readTime
  split
  · exact .error (.misuse .noMember)
  · dsimp only
    split
    · exact fails_checked _ _
    · exact fails_checked _ _

theorem stops_readBase64 (place held pads : Nat) (text : Text) :
    StopsInText (readBase64 place held pads text) := by
  induction text generalizing place held pads with
  | nil => exact .ite (.ok []) (stopsInText_stop _)
  | cons c rest ih =>
    unfold readBase64
    refine .ite (.ite (.ok []) (ih _ _ _)) ?_
    split
    · exact ih _ _ _
    · split
      · exact ih _ _ _
      · exact (ih _ _ _).map
      · exact (ih _ _ _).map
      · exact (ih _ _ _).map

theorem stops_readBinary (text : Text) : StopsInText (readBinary text) :=
  .ite (stops_readBase64 _ _ _ _).map (stopsInText_stop _)

theorem stops_lift {result : Except Fault Value} (fails : FailsAsValue result) :
    StopsInText (lift result) := by
  cases fails with
  | ok value => exact .ok value
  | error isOfValue => exact .error (.fault isOfValue)

theorem stops_readScalar (tag : Tag) (text : Text) : StopsInText (readScalar tag text) := by
  unfold readScalar
  split
  · exact .ok _
  · exact stops_lift (fails_readBool text).map
  · exact stops_lift (fails_readInt text).map
  · exact stops_lift (fails_readFloat text).map
  · exact stops_readBinary text
  · exact stops_lift (fails_readTime text)
  · exact .ok _
  · exact stopsInText_stop _

/-- The construction is stopped by `Stop.IsOfText` only. -/
abbrev BuiltInText {α : Type} (built : Built α) : Prop :=
  FailsOnly (fun stopped => stopped.2.IsOfText) built

section Built

variable {α β : Type} {a : Built α} {b : Built β}

theorem stops_both (first : BuiltInText a) (second : BuiltInText b) : BuiltInText (both a b) := by
  cases first with
  | ok x =>
    cases second with
    | ok y => exact .ok (x, y)
    | error known => exact .error known
  | error first =>
    cases second with
    | ok y => exact .error first
    | error second => exact .ite (.error second) (.error first)

theorem stops_all {built : List (Built α)} (each : ∀ a ∈ built, BuiltInText a) :
    BuiltInText (all built) := by
  induction built with
  | nil => exact .ok []
  | cons a rest ih =>
    obtain ⟨first, others⟩ := List.forall_mem_cons.mp each
    exact (stops_both first (ih others)).map

end Built

namespace Node

theorem stops_textOf (fuel : Nat) (node : Node) : StopsInText (textOf fuel node) := by
  induction fuel generalizing node with
  | zero => exact stopsInText_stop _
  | succ fuel ih =>
    unfold textOf
    split
    · exact .ok _
    · exact stopsInText_stop _
    · split
      · exact ih _
      · exact stopsInText_stop _

/-- Entries merged into a mapping. -/
theorem stops_held {fuel : Nat} (merged : ∀ entries, StopsInText (mergedEntries fuel entries))
    (node : Node) : StopsInText (match node with
      | mapping _ entries => mergedEntries fuel entries
      | _ => stop .tag) := by
  split
  · exact merged _
  · exact stopsInText_stop _

theorem stops_mergedEntries (fuel : Nat) (entries : List (Node × Node)) :
    StopsInText (mergedEntries fuel entries) := by
  induction fuel generalizing entries with
  | zero => exact .ok []
  | succ fuel ih =>
    unfold mergedEntries
    refine (FailsOnly.mapM ?_).bind fun _ _ => .ok _
    rintro ⟨key, value⟩ -
    refine .ite (.ok []) ?_
    split
    · exact (FailsOnly.mapM fun item _ => stops_held ih item).bind fun _ _ => .ok _
    · exact stops_held ih _

theorem stops_builtEntry (level : Nat) (key : Node) {built value : Built Value}
    (first : BuiltInText built) (second : BuiltInText value) :
    BuiltInText (builtEntry level key built value) := by
  have usable : BuiltInText (if isCollectionTag key.tag then .error (level, .problem .key)
      else .ok () : Built Unit) := .ite (.error (.problem _)) (.ok ())
  exact stops_both (stops_both first usable).map second

section Inner

variable {read : Node → Built Value}

theorem stops_entries (each : ∀ node, BuiltInText (read node)) (fuel level : Nat)
    (held : List (Node × Node)) : BuiltInText (match mergedEntries fuel held with
      | .error stop => .error (level, stop)
      | .ok entries => (all (entries.map fun (key, value) =>
          builtEntry level key (read key) (read value))).map Value.ofEntries) := by
  split
  · rename_i stop failed
    exact .error ((stops_mergedEntries _ _).allows failed)
  · refine (stops_all ?_).map
    rintro _ member
    obtain ⟨entry, -, rfl⟩ := List.mem_map.mp member
    exact stops_builtEntry _ _ (each _) (each _)

theorem stops_pair (each : ∀ node, BuiltInText (read node)) (level : Nat) (item : Node) :
    BuiltInText (match item with
      | mapping _ [(key, value)] =>
        (both (read key) (read value)).map fun (key, value) => Value.tuple [key, value]
      | _ => .error (level, .problem .tag)) := by
  split
  · exact (stops_both (each _) (each _)).map
  · exact .error (.problem _)

theorem stops_items (each : ∀ node, BuiltInText (read node)) (items : List Node) :
    BuiltInText ((all (items.map read)).map Value.list) := by
  refine (stops_all ?_).map
  rintro _ member
  obtain ⟨item, -, rfl⟩ := List.mem_map.mp member
  exact each item

end Inner

theorem stops_build (fuel level : Nat) (node : Node) : BuiltInText (build fuel level node) := by
  induction fuel generalizing level node with
  | zero => exact .error (.problem _)
  | succ fuel ih =>
    have inner := ih (level + 1)
    unfold build
    refine .ite ?_ ?_
    · have scalar : StopsInText (textOf (fuel + 1) node >>= readScalar node.tag) :=
        (stops_textOf _ _).bind fun _ _ => stops_readScalar _ _
      split
      · exact .ok _
      · rename_i stop failed
        exact .error (scalar.allows failed)
    · split
      · exact stops_items inner _
      · exact (stops_entries inner _ _ _).map
      · exact (stops_entries inner _ _ _).map
      · exact stops_items (stops_pair inner _) _
      · exact stops_items (stops_pair inner _) _
      · exact .error (.problem _)

theorem stops_toValue (node : Node) : StopsInText node.toValue := by
  unfold toValue
  split
  · exact .ok _
  · rename_i level stop failed
    exact .error ((stops_build _ _ _).allows failed)

end Node

theorem stops_read (text : Text) : StopsInText (read text) := by
  unfold read
  split
  · rename_i stop failed
    exact .error ((Node.stops_ofText? text).allows failed)
  · exact .ok _
  · exact Node.stops_toValue _

end TypedCatalog.Yaml
