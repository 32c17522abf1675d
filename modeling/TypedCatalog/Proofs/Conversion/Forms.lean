import TypedCatalog.Proofs.Conversion.ArrayLiteral

/-! Equivalent presentations of a value: decoded, as JSON text, and as an array literal of plain
texts. `convertTo` does not distinguish them, at any depth (`Presents`). -/
namespace TypedCatalog.Conversion

open SqlType (arrayOf jsonType)
open Text (IsTrimmed join splitOn)
open Value (Entries)

variable {text : Text} {parts : List Text} {target item : Target} {given value : Value}
  {items : List Value} {entries : Entries}

/-- Text that an array literal contains verbatim. -/
structure IsItem (text : Text) : Prop where
  filled : text ≠ []
  comma : ',' ∉ text
  opening : '\x7b' ∉ text
  closing : '\x7d' ∉ text
  quote : '"' ∉ text
  trimmed : IsTrimmed text

/-- JSON separators are white space. -/
theorem isSpace_visible {c : Char} (visible : Text.isBlank c = false) : Json.isSpace c = false := by
  by_contra space
  simp only [Json.isSpace, Bool.not_eq_false, Bool.or_eq_true, decide_eq_true_eq] at space
  rcases space with ((rfl | rfl) | rfl) | rfl <;> contradiction

theorem itemsOf_json (read : Json.read text = .ok (.list items)) :
    itemsOf (.str text) = .ok items := by
  have list : decoded .null text = .ok (.list items) := by rw [decoded, read]
  rw [itemsOf, list]

/-- An array literal is no JSON, so `itemsOf` splits it. -/
theorem itemsOf_literal (nonempty : parts ≠ []) (plain : ∀ part ∈ parts, IsItem part) :
    itemsOf (.str (braced parts)) = .ok (parts.map .str) := by
  obtain ⟨first, others, rfl⟩ := List.exists_cons_of_ne_nil nonempty
  have head := plain first List.mem_cons_self
  obtain ⟨c, rest, rfl⟩ := List.exists_cons_of_ne_nil head.filled
  have starts : join [','] ((c :: rest) :: others) = c :: join [','] (rest :: others) :=
    Text.join_cons_head _ _ _ _
  have visible : Json.isSpace c = false := isSpace_visible head.trimmed.head
  have quote : c ≠ '"' := (List.ne_of_not_mem_cons head.quote).symm
  have closing : c ≠ '\x7d' := (List.ne_of_not_mem_cons head.closing).symm
  rw [itemsOf_braced starts visible quote closing,
    Text.splitOn_join (fun part member => (plain part member).comma) nonempty]
  refine congrArg Except.ok (List.map_congr_left fun part member => ?_)
  rw [(plain part member).trimmed.trim]

theorem convert_list (item : Target) (items : List Value) :
    convert (.array item) (.list items) = (items.mapM (convert item)).map .list :=
  convert_array item Value.noConfusion

theorem convert_itemsOf (held : itemsOf (.str text) = .ok items) :
    convert (.array item) (.str text) = convert (.array item) (.list items) := by
  rw [convert_array item Value.noConfusion, held, convert_list]
  rfl

theorem map_list_injective {first second : Except Fault (List Value)}
    (same : first.map Value.list = second.map .list) : first = second := by
  cases first with
  | error fault =>
    cases second with
    | error other => cases same; rfl
    | ok items => cases same
  | ok items =>
    cases second with
    | error fault => cases same
    | ok others => cases same; rfl

/-- Conversion of a list is item by item. -/
theorem convert_cons {first second : Value} {others more : List Value}
    (head : convert item first = convert item second)
    (tail : convert (.array item) (.list others) = convert (.array item) (.list more)) :
    convert (.array item) (.list (first :: others)) =
      convert (.array item) (.list (second :: more)) := by
  rw [convert_list, convert_list] at tail ⊢
  rw [List.mapM_cons, List.mapM_cons, head, map_list_injective tail]

/-- The first value presents the second for a target; each item of a list may be presented in its
own form. -/
inductive Presents : Target → Value → Value → Prop where
  | decoded (target : Target) (value : Value) : Presents target value value
  | record {text : Text} {entries : Entries} : Json.read text = .ok (.dict entries) →
      Presents .json (.str text) (.dict entries)
  | list {item : Target} {text : Text} {items : List Value} {value : Value} :
      Json.read text = .ok (.list items) → Presents (.array item) (.list items) value →
      Presents (.array item) (.str text) value
  | literal {item : Target} {parts : List Text} {value : Value} :
      parts ≠ [] → (∀ part ∈ parts, IsItem part) →
      Presents (.array item) (.list (parts.map .str)) value →
      Presents (.array item) (.str (braced parts)) value
  | cons {item : Target} {given value : Value} {others values : List Value} :
      Presents item given value → Presents (.array item) (.list others) (.list values) →
      Presents (.array item) (.list (given :: others)) (.list (value :: values))

theorem convert_presents (presents : Presents target given value) :
    convert target given = convert target value := by
  induction presents with
  | decoded target value => rfl
  | record read =>
    rw [convert_json_str, decoded, read, convert_json Value.noConfusion fun _ => Value.noConfusion]
  | list read _ ih => rw [convert_itemsOf (itemsOf_json read), ih]
  | literal some plain _ ih => rw [convert_itemsOf (itemsOf_literal some plain), ih]
  | cons _ _ head tail => exact convert_cons head tail

/-- `convertTo` has equal outcomes on a list and its JSON text, on an object and its JSON text under
`jsonType`, on plain texts and their literal, and on all values related by `Presents`. -/
theorem convertTo_presents :
    (∀ (type text : Text) (items : List Value), Json.read text = .ok (.list items) →
      convertTo (.str (arrayOf type)) (.str text) =
        convertTo (.str (arrayOf type)) (.list items)) ∧
    (∀ (text : Text) (entries : Entries), Json.read text = .ok (.dict entries) →
      convertTo (.str jsonType) (.str text) = convertTo (.str jsonType) (.dict entries)) ∧
    (∀ (type : Text) (parts : List Text), parts ≠ [] → (∀ part ∈ parts, IsItem part) →
      convertTo (.str (arrayOf type)) (.str (braced parts)) =
        convertTo (.str (arrayOf type)) (.list (parts.map .str))) ∧
    ∀ (type : Text) (given value : Value), Presents (.ofName type) given value →
      convertTo (.str type) given = convertTo (.str type) value := by
  have general (type : Text) (given value : Value) (presents : Presents (.ofName type) given value) :
      convertTo (.str type) given = convertTo (.str type) value := by
    rw [convertTo_str, convertTo_str, convert_presents presents]
  refine ⟨fun type text items read => ?_, fun text entries read => ?_,
    fun type parts nonempty plain => ?_, general⟩
  · apply general
    rw [Target.ofName_arrayOf]
    exact .list read (.decoded _ _)
  · have json : Target.ofName jsonType = .json := by decide
    apply general
    rw [json]
    exact .record read
  · apply general
    rw [Target.ofName_arrayOf]
    exact .literal nonempty plain (.decoded _ _)

def cities : List Text := ["Rio de Janeiro", "Oslo"]

theorem isItem_cities : ∀ part ∈ cities, IsItem part := by
  rw [cities, List.forall_mem_cons, List.forall_mem_singleton]
  constructor
  · exact ⟨by decide, by decide, by decide, by decide, by decide, rfl, rfl⟩
  · exact ⟨by decide, by decide, by decide, by decide, by decide, rfl, rfl⟩

/-- Two rows, one of them as a literal. -/
def mixedCities : List Value := [.str (braced cities), .list [.ofText "Lima"]]

theorem isDocument_mixedCities : Json.IsDocument (.list mixedCities) := by
  constructor
  rw [mixedCities, List.forall_mem_cons, List.forall_mem_singleton]
  refine ⟨.str _, .list ?_⟩
  rw [List.forall_mem_singleton]
  exact .str _

def countedCities : List (Text × Value) := [("count", .int 3)]

theorem isDocument_countedCities : Json.IsDocument (.ofFields countedCities) := by
  refine .dict (by decide) ?_
  rw [countedCities, List.forall_mem_singleton]
  exact .int (by decide)

theorem convertTo_presents_mixed :
    let text := Json.write (.list mixedCities)
    let record : Entries := [(.ofText "count", .int 3)]
    let value : Value := .list [.list (cities.map .str), .list [.ofText "Lima"]]
    Json.read text = .ok (.list mixedCities) ∧
      convertTo (.ofText "string[][]") (.str text) =
        convertTo (.ofText "string[][]") (.list mixedCities) ∧
      Json.read (Json.write (.dict record)) = .ok (.dict record) ∧
      convertTo (.str jsonType) (.str (Json.write (.dict record))) =
        convertTo (.str jsonType) (.dict record) ∧
      cities ≠ [] ∧ (∀ part ∈ cities, IsItem part) ∧
      convertTo (.ofText "string[]") (.str (braced cities)) =
        convertTo (.ofText "string[]") (.list (cities.map .str)) ∧
      Presents (.ofName "string[][]") (.str text) value ∧
      convertTo (.ofText "string[][]") (.str text) = .ok value := by
  intro text record value
  have listRead : Json.read text = .ok (.list mixedCities) := Json.read_write isDocument_mixedCities
  have recordRead : Json.read (Json.write (.dict record)) = .ok (.dict record) :=
    Json.read_write isDocument_countedCities
  have nonempty : cities ≠ [] := List.cons_ne_nil _ _
  have target : Target.ofName "string[][]" = .array (.array .string) := by decide
  have presents : Presents (.ofName "string[][]") (.str text) value := by
    rw [target]
    exact .list listRead (.cons (.literal nonempty isItem_cities (.decoded _ _)) (.decoded _ _))
  obtain ⟨list, dict, literal, general⟩ := convertTo_presents
  exact ⟨listRead, list "string[]" text mixedCities listRead, recordRead,
    dict (Json.write (.dict record)) record recordRead, nonempty, isItem_cities,
    literal "string" cities nonempty isItem_cities, presents,
    (general "string[][]" (.str text) value presents).trans (by rfl)⟩

end TypedCatalog.Conversion
