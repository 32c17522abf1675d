import TypedCatalog.Proofs.Conversion.Target
import TypedCatalog.Proofs.Number.Integers
import TypedCatalog.Proofs.Value.Documents

/-! Conversion of array literals. A literal such as `{1,2}` is no JSON and is split at every comma,
so nested literals decode to their items only if no inner level contains a comma. -/
namespace TypedCatalog.Conversion

open SqlType (levels numberType)
open Target (arrays)
open Text (join splitOn trim)

variable {inner : Text} {parts : List Text}

/-- The literal of items that are given as text. -/
def braced (parts : List Text) : Text := '\x7b' :: (join [','] parts ++ ['\x7d'])

/-- A text that starts with a brace and anything but a name or the closing brace is no JSON. -/
theorem decoded_braced {c : Char} {rest : Text} (fallback : Value)
    (visible : Json.isSpace c = false) (quote : c ≠ '"') (closing : c ≠ '\x7d') :
    decoded fallback ('\x7b' :: c :: rest) = .ok fallback := by
  have token : Json.skipSpace ('\x7b' :: c :: rest) = '\x7b' :: c :: rest := rfl
  have start : Json.skipSpace (c :: rest) = c :: rest := by simp [Json.skipSpace, visible]
  have refused (fuel : Nat) : Json.readEntries (fuel + 1) (c :: rest) =
      .error (.problem .name (rest.length + 1)) :=
    Json.readEntries.eq_3 _ _ fun _ same => quote (List.cons.inj same).1
  have stopped (fuel : Nat) : Json.readValue (fuel + 2) ('\x7b' :: c :: rest) =
      .error (.problem .name (rest.length + 1)) := by
    rw [Json.readValue, start]
    split
    · rename_i same
      exact absurd (List.cons.inj same).1 closing
    · rw [refused]
  have fuel : 2 * ('\x7b' :: c :: rest).length + 1 = 2 * (rest.length + 1) + 1 + 2 := rfl
  have document : Json.readDocument ('\x7b' :: c :: rest) =
      .error (.problem .name (rest.length + 1)) := by
    rw [Json.readDocument, token, fuel, stopped]
    rintro _ same
    exact absurd (List.cons.inj same).1 (by decide)
  rw [decoded, Json.read, document]

theorem literalItems_braced (inner : Text) : literalItems ('\x7b' :: (inner ++ ['\x7d'])) =
    if inner = [] then [] else (splitOn ',' inner).map fun item => .str (trim item) := by
  have before : Text.before? "\x7d" (inner ++ ['\x7d']) = some inner := Text.before?_append inner _
  simp only [literalItems, before]
  cases inner <;> rfl

theorem itemsOf_braced {c : Char} {rest : Text} (shape : join [','] parts = c :: rest)
    (visible : Json.isSpace c = false) (quote : c ≠ '"') (closing : c ≠ '\x7d') :
    itemsOf (.str (braced parts)) =
      .ok ((splitOn ',' (join [','] parts)).map fun item => .str (trim item)) := by
  have read : decoded .null (braced parts) = .ok .null := by
    rw [braced, shape, List.cons_append]
    exact decoded_braced .null visible quote closing
  have items : literalItems (braced parts) =
      (splitOn ',' (join [','] parts)).map fun item => .str (trim item) := by
    rw [braced, literalItems_braced, if_neg (shape ▸ List.cons_ne_nil c rest)]
  rw [itemsOf, read, ← items]

theorem itemsOf_braced_nil : itemsOf (.str (braced [])) = .ok [] := by rfl

/-- Integers nested under `depth` levels of nonempty lists. -/
def Nested : Nat → Type
  | 0 => Int
  | depth + 1 => { items : List (Nested depth) // items ≠ [] }

namespace Nested

def number (n : Int) : Nested 0 := n

def level {depth : Nat} (items : List (Nested depth)) (nonempty : items ≠ []) : Nested (depth + 1) :=
  ⟨items, nonempty⟩

def value : {depth : Nat} → Nested depth → Value
  | 0, n => .int n
  | _ + 1, items => .list (items.1.map value)

def literal : {depth : Nat} → Nested depth → Text
  | 0, n => Text.ofInt n
  | _ + 1, items => braced (items.1.map literal)

/-- One integer under all levels, within the digit limit. -/
def IsSingle : {depth : Nat} → Nested depth → Prop
  | 0, n => (Text.ofNat n.natAbs).length ≤ Number.digitLimit
  | _ + 1, items => ∃ item, items.1 = [item] ∧ item.IsSingle

variable {depth : Nat}

/-- The characters of a literal are braces, commas and the marks of numbers. -/
theorem mem_literal (item : Nested depth) :
    ∀ c ∈ item.literal, c ∈ ['\x7b', '\x7d', ','] ++ Number.marks := by
  induction depth with
  | zero =>
    intro c member
    exact List.mem_append_right _ (Number.mem_marks_ofInt item c member)
  | succ depth ih =>
    intro c member
    rw [literal, braced, List.mem_cons, List.mem_append, List.mem_singleton] at member
    rcases member with rfl | inside | rfl
    · decide
    · rcases Text.mem_join inside with comma | ⟨part, held, inside⟩
      · rw [List.mem_singleton.mp comma]
        decide
      · obtain ⟨inner, -, rfl⟩ := List.mem_map.mp held
        exact ih inner c inside
    · decide

theorem trim_literal (item : Nested depth) : trim item.literal = item.literal :=
  Number.trimBy_of_none fun c member =>
    Number.none_of_any (by decide) c (item.mem_literal c member)

/-- A literal starts with a brace, a minus or a digit. -/
theorem literal_cons (item : Nested depth) :
    ∃ c rest, item.literal = c :: rest ∧ c ∈ '\x7b' :: Number.marks := by
  cases depth with
  | zero =>
    obtain ⟨c, rest, shape⟩ := List.exists_cons_of_ne_nil (Text.ofInt_ne_nil item)
    have first : c ∈ Text.ofInt item := by
      rw [shape]
      exact List.mem_cons_self
    exact ⟨c, rest, shape, List.mem_cons_of_mem _ (Number.mem_marks_ofInt item c first)⟩
  | succ depth => exact ⟨_, _, rfl, List.mem_cons_self⟩

theorem comma_ofInt (n : Int) : ',' ∉ Text.ofInt n := fun member =>
  absurd (Number.mem_marks_ofInt n ',' member) (by decide)

/-- The literal of a list contains no comma if and only if the list is a singleton whose item has
none. -/
theorem comma_literal (items : Nested (depth + 1)) :
    ',' ∉ items.literal ↔ ∃ item, items.1 = [item] ∧ ',' ∉ item.literal := by
  obtain ⟨first, others, shape⟩ := List.exists_cons_of_ne_nil items.2
  rw [literal, shape, braced]
  cases others with
  | nil => simp [join]
  | cons second others => simp [join]

end Nested

variable {depth : Nat} {target : Target}

theorem itemsOf_literals (items : List (Nested depth)) (nonempty : items ≠ []) :
    itemsOf (.str (braced (items.map Nested.literal))) =
      .ok ((splitOn ',' (join [','] (items.map Nested.literal))).map fun item =>
        .str (trim item)) := by
  obtain ⟨first, others, rfl⟩ := List.exists_cons_of_ne_nil nonempty
  obtain ⟨c, rest, shape, mark⟩ := first.literal_cons
  have starts : ∃ more, join [','] ((first :: others).map Nested.literal) = c :: more := by
    rw [List.map_cons, shape, Text.join_cons_head]
    exact ⟨_, rfl⟩
  obtain ⟨more, starts⟩ := starts
  have visible : Json.isSpace c = false := Number.none_of_any (by decide) c mark
  have quote : c ≠ '"' := fun same => absurd (same ▸ mark) (by decide)
  have closing : c ≠ '\x7d' := fun same => absurd (same ▸ mark) (by decide)
  exact itemsOf_braced starts visible quote closing

/-- `literalItems` recovers the items that contain no comma. -/
theorem pieces_literals {items : List (Nested depth)} (nonempty : items ≠ [])
    (free : ∀ item ∈ items, ',' ∉ item.literal) :
    ((splitOn ',' (join [','] (items.map Nested.literal))).map fun item => Value.str (trim item)) =
      items.map fun item => .str item.literal := by
  have alone : ∀ part ∈ items.map Nested.literal, ',' ∉ part := List.forall_mem_map.mpr free
  rw [Text.splitOn_join alone (by simpa using nonempty), List.map_map]
  exact List.map_congr_left fun item _ => congrArg Value.str item.trim_literal

/-- One level: the literal converts to its items if and only if none contains a comma and each
converts. -/
theorem convert_literals_iff (items : List (Nested depth)) :
    convert (.array target) (.str (braced (items.map Nested.literal))) =
        .ok (.list (items.map Nested.value)) ↔
      ∀ item ∈ items, ',' ∉ item.literal ∧ convert target (.str item.literal) = .ok item.value := by
  rw [convert_array target Value.noConfusion]
  by_cases empty : items = []
  · subst empty
    have nothing : itemsOf (.str (braced (List.map Nested.literal ([] : List (Nested depth))))) =
        .ok [] := itemsOf_braced_nil
    rw [nothing]
    exact ⟨fun _ => List.forall_mem_nil _, fun _ => rfl⟩
  · have each (free : ∀ item ∈ items, ',' ∉ item.literal) :
        (((splitOn ',' (join [','] (items.map Nested.literal))).map fun item =>
            Value.str (trim item)).mapM (convert target) = .ok (items.map Nested.value) ↔
          ∀ item ∈ items, convert target (.str item.literal) = .ok item.value) := by
      rw [pieces_literals empty free, mapM_ok_iff, List.forall₂_map_left_iff,
        List.forall₂_map_right_iff, List.forall₂_same]
    rw [itemsOf_literals items empty, ok_bind]
    constructor
    · intro run
      obtain ⟨results, done, same⟩ := map_ok run
      obtain rfl := Value.list.inj same
      -- Every comma makes one more piece, and so one more result than there are items.
      have length := (mapM_ok_iff.mp done).length_eq
      have free : ∀ part ∈ items.map Nested.literal, ',' ∉ part :=
        Text.free_of_length (by simpa using empty) (by simpa using length)
      have alone : ∀ item ∈ items, ',' ∉ item.literal := fun item member =>
        free _ (List.mem_map_of_mem member)
      exact fun item member => ⟨alone item member, (each alone).mp done item member⟩
    · intro right
      have done := (each fun item member => (right item member).1).mpr fun item member =>
        (right item member).2
      rw [done]
      rfl

theorem toNumber_ofInt (n : Int) : toNumber (.str (Text.ofInt n)) = .ok (.int n) ↔
    (Text.ofNat n.natAbs).length ≤ Number.digitLimit := by
  have trimmed : trim (Text.ofInt n) = Text.ofInt n :=
    Number.trimBy_of_none fun c member =>
      Number.none_of_any (by decide) c (Number.mem_marks_ofInt n c member)
  have number : toNumber (.str (Text.ofInt n)) = .ok (numberIn (Text.ofInt n)) := rfl
  rw [number, Except.ok.injEq]
  by_cases long : Number.digitLimit < (Text.ofNat n.natAbs).length
  · rw [numberIn, trimmed, Number.readInt_ofInt, if_pos long]
    exact iff_of_false Value.noConfusion (Nat.not_le.mpr long)
  · rw [numberIn, trimmed, Number.readInt_ofInt, if_neg long]
    exact iff_of_true rfl (Nat.le_of_not_lt long)

theorem isSingle_iff (item : Nested depth) :
    ',' ∉ item.literal ∧ convert (arrays depth .number) (.str item.literal) = .ok item.value ↔
      item.IsSingle := by
  induction depth with
  | zero =>
    have result : convert .number (.str (Text.ofInt item)) = .ok (.int item) ↔
        toNumber (.str (Text.ofInt item)) = .ok (.int item) := by
      rw [convert_number Value.noConfusion]
    exact (and_iff_right (Nested.comma_ofInt item)).trans (result.trans (toNumber_ofInt item))
  | succ depth ih =>
    rw [Nested.comma_literal, arrays, Nested.literal, Nested.value, convert_literals_iff,
      Nested.IsSingle]
    constructor
    · rintro ⟨⟨single, shape, -⟩, right⟩
      exact ⟨single, shape, (ih single).mp (right single (by simp [shape]))⟩
    · rintro ⟨single, shape, holds⟩
      have right := (ih single).mpr holds
      exact ⟨⟨single, shape, right.1⟩, by simpa [shape] using right⟩

/-- `convertTo` inverts `Nested.literal` if and only if every item `IsSingle`: each inner level is a
singleton, and every integer is within the digit limit. The commas of longer inner levels are split
at the outer level. -/
theorem convertTo_literal_iff (items : List (Nested depth)) :
    convertTo (.str (numberType ++ levels (depth + 1))) (.str (braced (items.map Nested.literal))) =
        .ok (.list (items.map Nested.value)) ↔ ∀ item ∈ items, item.IsSingle := by
  have number : Target.ofName numberType = .number := by decide
  rw [convertTo_str, Target.ofName_levels, number, arrays, convert_literals_iff]
  exact forall₂_congr fun item _ => isSingle_iff item

/-- An integer followed by a brace is no JSON. -/
theorem decoded_closed {n : Int} (short : (Text.ofNat n.natAbs).length ≤ Number.digitLimit)
    (fallback : Value) : decoded fallback (Text.ofInt n ++ ['\x7d']) = .ok fallback := by
  obtain ⟨c, rest, shape, scalar⟩ := Json.startsScalar_int n
  have ends : Json.EndsNumber ['\x7d'] := by
    rintro _ ⟨⟩
    decide
  have number := Json.readScalar_int short ends
  have document : Json.readDocument (Text.ofInt n ++ ['\x7d']) = .error (.problem .extra 1) := by
    rw [shape, List.cons_append] at number ⊢
    rw [Json.readDocument_scalar scalar, number]
    rfl
  rw [decoded, Json.read, document]

/-- A text that is neither JSON nor a literal converts to the empty list. -/
theorem convert_bare {text : Text} (read : decoded .null text = .ok .null)
    (bare : literalItems text = []) : convert (.array target) (.str text) = .ok (.list []) := by
  have items : itemsOf (.str text) = .ok [] := by rw [itemsOf, read, ← bare]
  rw [convert_array target Value.noConfusion, items]
  rfl

/-- Two rows of two integers. -/
def pairs : List (Nested 1) :=
  [.level [.number 1, .number 2] (List.cons_ne_nil _ _),
    .level [.number 3, .number 4] (List.cons_ne_nil _ _)]

/-- The literal of `pairs` converts to four empty lists. -/
theorem convertTo_pairs :
    .str (braced (pairs.map Nested.literal)) = Value.ofText "\x7b\x7b1,2\x7d,\x7b3,4\x7d\x7d" ∧
      convertTo (.str (numberType ++ levels 2)) (.str (braced (pairs.map Nested.literal))) =
        .ok (.list [.list [], .list [], .list [], .list []]) ∧
      convertTo (.str (numberType ++ levels 2)) (.str (braced (pairs.map Nested.literal))) ≠
        .ok (.list (pairs.map Nested.value)) := by
  have text : .str (braced (pairs.map Nested.literal)) =
      Value.ofText "\x7b\x7b1,2\x7d,\x7b3,4\x7d\x7d" := by rfl
  have target : Target.ofName (numberType ++ levels 2) = .array (.array .number) := by decide
  have pieces : ((splitOn ',' (join [','] (pairs.map Nested.literal))).map fun item =>
      Value.str (trim item)) =
        [.ofText "\x7b1", .ofText "2\x7d", .ofText "\x7b3", .ofText "4\x7d"] := by rfl
  have first : convert (.array .number) (.ofText "\x7b1") = .ok (.list []) :=
    convert_bare (decoded_braced .null rfl (by decide) (by decide)) rfl
  have second : convert (.array .number) (.ofText "2\x7d") = .ok (.list []) :=
    convert_bare (@decoded_closed 2 (by decide) .null) rfl
  have third : convert (.array .number) (.ofText "\x7b3") = .ok (.list []) :=
    convert_bare (decoded_braced .null rfl (by decide) (by decide)) rfl
  have fourth : convert (.array .number) (.ofText "4\x7d") = .ok (.list []) :=
    convert_bare (@decoded_closed 4 (by decide) .null) rfl
  have run : convertTo (.str (numberType ++ levels 2)) (.str (braced (pairs.map Nested.literal))) =
      .ok (.list [.list [], .list [], .list [], .list []]) := by
    rw [convertTo_str, target, convert_array _ Value.noConfusion,
      itemsOf_literals pairs (List.cons_ne_nil _ _), ok_bind, pieces,
      mapM_ok_iff.mpr (.cons first (.cons second (.cons third (.cons fourth .nil))))]
    rfl
  refine ⟨text, run, fun same => ?_⟩
  rw [run] at same
  have lengths := congrArg List.length (Value.list.inj (Except.ok.inj same))
  exact absurd lengths (by decide)

end TypedCatalog.Conversion
