import TypedCatalog.Proofs.Json.Literal
import TypedCatalog.Proofs.Json.Number
import TypedCatalog.Proofs.Json.Readings
import TypedCatalog.Proofs.Text.Clean

/-! Round trip of documents: `Json.read` inverts `Json.write` on `IsDocument` values, i.e. without
dates and bytes, with unique text keys, and with integers within the digit limit. -/
namespace TypedCatalog.Json

open Text

inductive IsDocument : Value → Prop where
  | null : IsDocument .null
  | bool (b : Bool) : IsDocument (.bool b)
  | int {n : Int} : (ofNat n.natAbs).length ≤ Number.digitLimit → IsDocument (.int n)
  | float {x : Binary64} : x.IsDouble → IsDocument (.float x)
  | str (text : Text) : IsDocument (.str text)
  | list {items : List Value} : (∀ item ∈ items, IsDocument item) → IsDocument (.list items)
  | dict {fields : List (Text × Value)} : (fields.map Prod.fst).Nodup →
      (∀ field ∈ fields, IsDocument field.2) → IsDocument (.ofFields fields)

theorem skipSpace_newLine (depth : Nat) (text : Text) :
    skipSpace (newLine depth ++ text) = skipSpace text := by
  apply List.dropWhile_append_of_pos
  intro c member
  rcases List.mem_cons.mp member with rfl | member
  · rfl
  · rw [List.eq_of_mem_replicate member]
    rfl

theorem skipSpace_token {c : Char} (token : isSpace c = false) (rest : Text) :
    skipSpace (c :: rest) = c :: rest := by
  simp [skipSpace, token]

/-- The first characters of numbers and constants. -/
def startsScalar (c : Char) : Bool := isDigit c || c ∈ ['-', 'n', 't', 'f', 'N', 'I']

/-- The first characters of values. -/
def startsValue (c : Char) : Bool := startsScalar c || c ∈ ['"', '[', '\x7b']

theorem startsValue_of_scalar {c : Char} (scalar : startsScalar c = true) : startsValue c = true := by
  rw [startsValue, scalar, Bool.true_or]

theorem visible_of_startsValue {c : Char} (starts : startsValue c = true) : isSpace c = false := by
  have blank : c ≠ ' ' := ne_of_holds starts (by decide)
  have tab : c ≠ '\t' := ne_of_holds starts (by decide)
  have newLine : c ≠ '\n' := ne_of_holds starts (by decide)
  have carriage : c ≠ '\r' := ne_of_holds starts (by decide)
  simp [isSpace, blank, tab, newLine, carriage]

theorem startsScalar_int (n : Int) : ∃ c rest, ofInt n = c :: rest ∧ startsScalar c = true := by
  cases n with
  | ofNat n =>
    obtain ⟨c, rest, shape, digit⟩ := (isWhole_ofNat n).starts []
    exact ⟨c, rest, (List.append_nil _).symm.trans shape, by simp [startsScalar, digit]⟩
  | negSucc n => exact ⟨'-', _, rfl, by decide⟩

theorem startsScalar_float {x : Binary64} (double : x.IsDouble) :
    ∃ c rest, x.write Binary64.named = c :: rest ∧ startsScalar c = true := by
  cases x with
  | finite negative units =>
    obtain ⟨c, rest, shape, digit⟩ := (readsAs_magnitude (double negative units rfl)).2
    cases negative with
    | false => exact ⟨c, rest, shape, by simp [startsScalar, digit]⟩
    | true => exact ⟨'-', _, rfl, by decide⟩
  | infinite negative => cases negative <;> exact ⟨_, _, rfl, by decide⟩
  | undefined => exact ⟨_, _, rfl, by decide⟩

theorem block_cons (depth : Nat) (opening closing : Char) (parts : List Text) :
    ∃ rest, block depth opening closing parts = opening :: rest := by
  unfold block
  split
  · exact ⟨[closing], rfl⟩
  · exact ⟨_, rfl⟩

theorem startsValue_write {value : Value} (document : IsDocument value) (depth : Nat) :
    ∃ c rest, writeAt depth value = c :: rest ∧ startsValue c = true := by
  cases document with
  | null => exact ⟨_, _, rfl, by decide⟩
  | bool b => cases b <;> exact ⟨_, _, rfl, by decide⟩
  | int _ =>
    obtain ⟨c, rest, shape, scalar⟩ := startsScalar_int _
    exact ⟨c, rest, shape, startsValue_of_scalar scalar⟩
  | float double =>
    obtain ⟨c, rest, shape, scalar⟩ := startsScalar_float double
    exact ⟨c, rest, shape, startsValue_of_scalar scalar⟩
  | str text => exact ⟨_, _, rfl, by decide⟩
  | list _ =>
    obtain ⟨rest, shape⟩ := block_cons depth '[' ']' _
    exact ⟨'[', rest, shape, by decide⟩
  | dict _ _ =>
    obtain ⟨rest, shape⟩ := block_cons depth '\x7b' '\x7d' _
    exact ⟨'\x7b', rest, shape, by decide⟩

theorem readValue_scalar {fuel : Nat} {c : Char} {rest : Text} (scalar : startsScalar c = true) :
    readValue (fuel + 1) (c :: rest) = readScalar (c :: rest) := by
  have quote : c ≠ '"' := ne_of_holds scalar (by decide)
  have bracket : c ≠ '[' := ne_of_holds scalar (by decide)
  have brace : c ≠ '\x7b' := ne_of_holds scalar (by decide)
  apply readValue.eq_5 _ fuel
  · intro _ same
    exact quote (List.cons.inj same).1
  · intro _ same
    exact bracket (List.cons.inj same).1
  · intro _ same
    exact brace (List.cons.inj same).1

/-- A document that starts as a scalar is a scalar and white space. -/
theorem readDocument_scalar {c : Char} {rest : Text} (scalar : startsScalar c = true) :
    readDocument (c :: rest) = match readScalar (c :: rest) with
      | .error stop => .error stop
      | .ok (value, left) => match skipSpace left with
        | [] => .ok value
        | left => .error (.problem .extra left.length) := by
  have visible := visible_of_startsValue (startsValue_of_scalar scalar)
  have mark : c ≠ '\ufeff' := ne_of_holds scalar (by decide)
  have document := readDocument.eq_2 (c :: rest) fun _ same => mark (List.cons.inj same).1
  rw [skipSpace_token visible, readValue_scalar scalar] at document
  exact document

/-- `readValue` inverts `writeAt` at every depth and before every rest. -/
def ReadsBack (value : Value) : Prop :=
  ∀ depth fuel rest, EndsNumber rest → 2 * (writeAt depth value).length ≤ fuel →
    readValue fuel (writeAt depth value ++ rest) = .ok (value, rest)

theorem endsNumber_newLine (depth : Nat) (rest : Text) : EndsNumber (newLine depth ++ rest) := by
  rintro c ⟨⟩
  decide

theorem endsNumber_comma (rest : Text) : EndsNumber (',' :: rest) := by
  rintro c ⟨⟩
  decide

/-- The separator of a block. -/
def separator (depth : Nat) : Text := ',' :: newLine depth

/-- `skipSpace` is the identity on the text before every rest. -/
def StartsToken (text : Text) : Prop := ∀ rest, skipSpace (text ++ rest) = text ++ rest

theorem StartsToken.join {first : Text} (token : StartsToken first) (between : Text)
    (others : List Text) : StartsToken (Text.join between (first :: others)) := by
  intro rest
  cases others with
  | nil => exact token rest
  | cons second others =>
    rw [join_cons, List.append_assoc]
    exact token _

theorem startsToken_write {value : Value} (document : IsDocument value) (depth : Nat) :
    StartsToken (writeAt depth value) := by
  intro rest
  obtain ⟨c, tail, shape, starts⟩ := startsValue_write document depth
  rw [shape, List.cons_append, skipSpace_token (visible_of_startsValue starts)]

theorem readItems_join (inner outer : Nat) {item : Value} {items : List Value} {fuel : Nat}
    (documents : ∀ value ∈ item :: items, IsDocument value)
    (reads : ∀ value ∈ item :: items, ReadsBack value)
    (enough : 2 * (Text.join (separator inner) ((item :: items).map (writeAt inner))).length < fuel)
    (rest : Text) :
    readItems fuel (Text.join (separator inner) ((item :: items).map (writeAt inner)) ++
      (newLine outer ++ ']' :: rest)) = .ok (item :: items, rest) := by
  induction items generalizing item fuel with
  | nil =>
    obtain ⟨fuel, rfl⟩ := Nat.exists_eq_succ_of_ne_zero (Nat.ne_zero_of_lt enough)
    simp only [List.map_cons, List.map_nil, Text.join] at enough ⊢
    have read := reads item (by simp) inner fuel _ (endsNumber_newLine outer (']' :: rest))
      (by omega)
    have closes : skipSpace (newLine outer ++ ']' :: rest) = ']' :: rest :=
      skipSpace_newLine outer (']' :: rest)
    exact readItems_iff.mpr (.last read closes)
  | cons second items ih =>
    obtain ⟨fuel, rfl⟩ := Nat.exists_eq_succ_of_ne_zero (Nat.ne_zero_of_lt enough)
    obtain ⟨document, documents⟩ := List.forall_mem_cons.mp documents
    obtain ⟨read, reads⟩ := List.forall_mem_cons.mp reads
    have token := (startsToken_write (documents second (by simp)) inner).join (separator inner)
      (items.map (writeAt inner)) (newLine outer ++ ']' :: rest)
    have others (bound : _ < fuel) := ih documents reads bound
    simp only [List.map_cons, join_cons, List.append_assoc] at enough token others ⊢
    generalize Text.join (separator inner) (writeAt inner second :: items.map (writeAt inner)) =
      tail at *
    simp only [separator, List.length_append, List.length_cons, List.cons_append] at enough ⊢
    have read := read inner fuel _ (endsNumber_comma (newLine inner ++ (tail ++
      (newLine outer ++ ']' :: rest)))) (by omega)
    refine readItems_iff.mpr (.more read (skipSpace_token rfl _) ?_)
    rw [skipSpace_newLine, token]
    exact others (by omega)

def entryText (depth : Nat) (field : Text × Value) : Text :=
  literal field.1 ++ ": " ++ writeAt depth field.2

theorem startsToken_entry (depth : Nat) (field : Text × Value) :
    StartsToken (entryText depth field) := fun _ => skipSpace_token rfl _

/-- The remaining entries after one entry. -/
def readBehind (fuel : Nat) (entry : Value × Value) (rest : Text) : Step Value.Entries :=
  match skipSpace rest with
  | '\x7d' :: rest => .ok ([entry], rest)
  | ',' :: rest =>
    match readEntries fuel (skipSpace rest) with
    | .error stop => .error stop
    | .ok (entries, rest) => .ok (entry :: entries, rest)
  | rest => .error (.problem .comma rest.length)

theorem readEntries_entry {field : Text × Value} {depth fuel : Nat} {rest : Text}
    (document : IsDocument field.2) (reads : ReadsBack field.2) (ends : EndsNumber rest)
    (enough : 2 * (entryText depth field).length ≤ fuel) :
    readEntries (fuel + 1) (entryText depth field ++ rest) =
      readBehind fuel (.str field.1, field.2) rest := by
  have shape : entryText depth field ++ rest = '"' :: (field.1.flatMap escapeChar ++
      '"' :: ':' :: ' ' :: (writeAt depth field.2 ++ rest)) := by
    simp [entryText, literal]
  have colon (text : Text) : skipSpace (':' :: text) = ':' :: text := skipSpace_token rfl text
  have blank : skipSpace (' ' :: (writeAt depth field.2 ++ rest)) = writeAt depth field.2 ++ rest :=
    startsToken_write document depth rest
  simp only [entryText, List.length_append] at enough
  have read := reads depth fuel rest ends (by omega)
  rw [shape]
  simp only [readEntries.eq_2, readText_escapes, colon, blank, read]
  rfl

theorem readEntries_join (inner outer : Nat) {field : Text × Value}
    {fields : List (Text × Value)} {fuel : Nat}
    (documents : ∀ held ∈ field :: fields, IsDocument held.2)
    (reads : ∀ held ∈ field :: fields, ReadsBack held.2)
    (enough : 2 * (Text.join (separator inner) ((field :: fields).map (entryText inner))).length <
      fuel) (rest : Text) :
    readEntries fuel (Text.join (separator inner) ((field :: fields).map (entryText inner)) ++
      (newLine outer ++ '\x7d' :: rest)) =
      .ok ((field :: fields).map fun held => (.str held.1, held.2), rest) := by
  induction fields generalizing field fuel with
  | nil =>
    obtain ⟨fuel, rfl⟩ := Nat.exists_eq_succ_of_ne_zero (Nat.ne_zero_of_lt enough)
    simp only [List.map_cons, List.map_nil, Text.join] at enough ⊢
    have closes : skipSpace (newLine outer ++ '\x7d' :: rest) = '\x7d' :: rest :=
      skipSpace_newLine outer ('\x7d' :: rest)
    rw [readEntries_entry (documents field (by simp)) (reads field (by simp))
      (endsNumber_newLine outer _) (by omega), readBehind, closes]
    rfl
  | cons second fields ih =>
    obtain ⟨fuel, rfl⟩ := Nat.exists_eq_succ_of_ne_zero (Nat.ne_zero_of_lt enough)
    obtain ⟨document, documents⟩ := List.forall_mem_cons.mp documents
    obtain ⟨read, reads⟩ := List.forall_mem_cons.mp reads
    have token := (startsToken_entry inner second).join (separator inner)
      (fields.map (entryText inner)) (newLine outer ++ '\x7d' :: rest)
    have others (bound : _ < fuel) := ih documents reads bound
    simp only [List.map_cons, join_cons, List.append_assoc] at enough token others ⊢
    generalize Text.join (separator inner) (entryText inner second :: fields.map (entryText inner)) =
      tail at *
    simp only [separator, List.length_append, List.length_cons, List.cons_append] at enough ⊢
    have comma (text : Text) : skipSpace (',' :: text) = ',' :: text := skipSpace_token rfl text
    have others := others (by omega)
    rw [readEntries_entry document read (endsNumber_comma _) (by omega)]
    simp only [readBehind, comma, skipSpace_newLine, token, others]

theorem sameKey_str (name other : Text) :
    Value.sameKey (.str name) (.str other) = decide (name = other) := rfl

/-- `put` of a new key appends. -/
theorem put_new {fields : List (Text × Value)} {name : Text} (new : name ∉ fields.map Prod.fst)
    (value : Value) :
    Value.put (fields.map fun held => (.str held.1, held.2)) (.str name) value =
      (fields ++ [(name, value)]).map fun held => (.str held.1, held.2) := by
  induction fields with
  | nil => rfl
  | cons field fields ih =>
    simp only [List.map_cons, List.mem_cons, not_or] at new
    have other : Value.sameKey (.str field.1) (.str name) = false := by
      simpa [sameKey_str] using Ne.symm new.1
    simp only [List.map_cons, List.cons_append, Value.put, other, Bool.false_eq_true, if_false,
      ih new.2]

theorem ofEntries_fields {fields : List (Text × Value)} (distinct : (fields.map Prod.fst).Nodup) :
    Value.ofEntries (fields.map fun held => (.str held.1, held.2)) =
      fields.map fun held => (.str held.1, held.2) := by
  have general : ∀ held left : List (Text × Value), ((held ++ left).map Prod.fst).Nodup →
      (left.map fun field => (Value.str field.1, field.2)).foldl
        (fun held entry => Value.put held entry.1 entry.2)
        (held.map fun field => (.str field.1, field.2)) =
      (held ++ left).map fun field => (.str field.1, field.2) := by
    intro held left distinct
    induction left generalizing held with
    | nil => simp
    | cons field left ih =>
      have new : field.1 ∉ held.map Prod.fst := by
        rw [List.map_append, List.nodup_append] at distinct
        intro member
        exact distinct.2.2 _ member _ (by simp) rfl
      have next := ih (held ++ [field]) (by simpa using distinct)
      simp only [List.map_cons, List.foldl_cons]
      rw [put_new new, next]
      simp
  exact general [] fields distinct

theorem writeItems_eq (depth : Nat) (items : List Value) :
    writeItems depth items = items.map (writeAt depth) := by
  induction items with
  | nil => rw [writeItems, List.map_nil]
  | cons item items ih => rw [writeItems, ih, List.map_cons]

theorem writeEntries_eq (depth : Nat) (fields : List (Text × Value)) :
    writeEntries depth (fields.map fun field => (.str field.1, field.2)) =
      fields.map (entryText depth) := by
  induction fields with
  | nil => rw [List.map_nil, writeEntries, List.map_nil]
  | cons field fields ih =>
    rw [List.map_cons, writeEntries, ih, List.map_cons]
    rfl

theorem block_cons_eq (depth : Nat) (opening closing : Char) (first : Text) (others : List Text)
    (rest : Text) :
    block depth opening closing (first :: others) ++ rest =
      opening :: (newLine (depth + 1) ++ (Text.join (separator (depth + 1)) (first :: others) ++
        (newLine depth ++ closing :: rest))) := by
  simp [block, separator]

/-- `skipSpace` after an opening bracket reaches the first part. -/
theorem skipSpace_block {first : Text} {c : Char} (token : StartsToken first)
    (starts : first.head? = some c) (depth : Nat) (others : List Text) (rest : Text) :
    ∃ tail, skipSpace (newLine (depth + 1) ++
      (Text.join (separator (depth + 1)) (first :: others) ++ rest)) = c :: tail ∧
      c :: tail = Text.join (separator (depth + 1)) (first :: others) ++ rest := by
  rw [skipSpace_newLine, token.join]
  obtain ⟨d, tail, rfl⟩ : ∃ d tail, first = d :: tail := by
    cases first with
    | nil => contradiction
    | cons d tail => exact ⟨d, tail, rfl⟩
  obtain rfl := Option.some.inj starts
  cases others with
  | nil => exact ⟨tail ++ rest, rfl, rfl⟩
  | cons second others =>
    rw [join_cons]
    exact ⟨_, rfl, rfl⟩

theorem length_block_cons (depth : Nat) (opening closing : Char) (first : Text)
    (others : List Text) :
    (Text.join (separator (depth + 1)) (first :: others)).length + 2 ≤
      (block depth opening closing (first :: others)).length := by
  have shape := block_cons_eq depth opening closing first others []
  rw [List.append_nil] at shape
  rw [shape]
  simp only [List.length_cons, List.length_append]
  omega

theorem readsBack_scalar {value : Value} {text : Text}
    (written : ∀ depth, writeAt depth value = text)
    (starts : ∃ c rest, text = c :: rest ∧ startsScalar c = true)
    (reads : ∀ rest, EndsNumber rest → readScalar (text ++ rest) = .ok (value, rest)) :
    ReadsBack value := by
  intro depth fuel rest ends enough
  obtain ⟨c, tail, rfl, scalar⟩ := starts
  rw [written, List.length_cons] at enough
  obtain ⟨fuel, rfl⟩ := Nat.exists_eq_succ_of_ne_zero (show fuel ≠ 0 by omega)
  rw [written, List.cons_append, readValue_scalar scalar]
  exact reads rest ends

theorem readsBack_str (text : Text) : ReadsBack (.str text) := by
  intro depth fuel rest _ enough
  have shape : writeAt depth (.str text) ++ rest =
      '"' :: (text.flatMap escapeChar ++ '"' :: rest) := by
    simp [writeAt, literal]
  have nonempty : 0 < (writeAt depth (.str text)).length := by simp [writeAt, literal]
  obtain ⟨fuel, rfl⟩ := Nat.exists_eq_succ_of_ne_zero (show fuel ≠ 0 by omega)
  rw [shape, readValue.eq_2, readText_escapes]

theorem readsBack_list {items : List Value} (documents : ∀ item ∈ items, IsDocument item)
    (reads : ∀ item ∈ items, ReadsBack item) : ReadsBack (.list items) := by
  intro depth fuel rest _ enough
  simp only [writeAt, writeItems_eq] at enough ⊢
  cases items with
  | nil =>
    obtain ⟨fuel, rfl⟩ := Nat.exists_eq_succ_of_ne_zero (Nat.ne_zero_of_lt enough)
    rfl
  | cons item items =>
    have length := length_block_cons depth '[' ']' (writeAt (depth + 1) item)
      (items.map (writeAt (depth + 1)))
    rw [List.map_cons] at enough
    obtain ⟨fuel, rfl⟩ := Nat.exists_eq_succ_of_ne_zero (show fuel ≠ 0 by omega)
    obtain ⟨c, _, shape, starts⟩ := startsValue_write (documents item (by simp)) (depth + 1)
    obtain ⟨tail, skipped, same⟩ := skipSpace_block
      (startsToken_write (documents item (by simp)) (depth + 1)) (congrArg List.head? shape) depth
      (items.map (writeAt (depth + 1))) (newLine depth ++ ']' :: rest)
    have found := readItems_join (depth + 1) depth documents reads
      (show 2 * (Text.join (separator (depth + 1)) ((item :: items).map
        (writeAt (depth + 1)))).length < fuel by rw [List.map_cons]; omega) rest
    rw [List.map_cons, ← same] at found
    have open_bracket : c ≠ ']' := ne_of_holds starts (by decide)
    rw [List.map_cons, block_cons_eq, readValue.eq_3, skipped]
    split
    · rename_i closed
      exact absurd (List.cons.inj closed).1 open_bracket
    · simp only [found]

theorem readsBack_dict {fields : List (Text × Value)} (distinct : (fields.map Prod.fst).Nodup)
    (documents : ∀ field ∈ fields, IsDocument field.2)
    (reads : ∀ field ∈ fields, ReadsBack field.2) : ReadsBack (.ofFields fields) := by
  intro depth fuel rest _ enough
  have shape : Value.ofFields fields =
      .dict (fields.map fun field => (.str field.1, field.2)) := rfl
  rw [shape, writeAt, writeEntries_eq] at enough ⊢
  cases fields with
  | nil =>
    obtain ⟨fuel, rfl⟩ := Nat.exists_eq_succ_of_ne_zero (Nat.ne_zero_of_lt enough)
    rfl
  | cons field fields =>
    have length := length_block_cons depth '\x7b' '\x7d' (entryText (depth + 1) field)
      (fields.map (entryText (depth + 1)))
    rw [List.map_cons] at enough
    obtain ⟨fuel, rfl⟩ := Nat.exists_eq_succ_of_ne_zero (show fuel ≠ 0 by omega)
    obtain ⟨tail, skipped, same⟩ := skipSpace_block (startsToken_entry (depth + 1) field)
      (show _ = some '"' from rfl) depth (fields.map (entryText (depth + 1)))
      (newLine depth ++ '\x7d' :: rest)
    have found := readEntries_join (depth + 1) depth documents reads
      (show 2 * (Text.join (separator (depth + 1)) ((field :: fields).map
        (entryText (depth + 1)))).length < fuel by rw [List.map_cons]; omega) rest
    rw [List.map_cons, ← same] at found
    rw [List.map_cons, block_cons_eq, readValue.eq_4, skipped]
    split
    · rename_i closed
      exact absurd (List.cons.inj closed).1 (by decide)
    · simp only [found, ofEntries_fields distinct]

/-- `ReadsBack` holds of every document. -/
theorem readsBack_document {value : Value} (document : IsDocument value) : ReadsBack value := by
  induction document with
  | null =>
    exact readsBack_scalar (fun _ => rfl) ⟨_, _, rfl, by decide⟩ fun _ _ => rfl
  | bool b =>
    cases b with
    | false => exact readsBack_scalar (fun _ => rfl) ⟨_, _, rfl, by decide⟩ fun _ _ => rfl
    | true => exact readsBack_scalar (fun _ => rfl) ⟨_, _, rfl, by decide⟩ fun _ _ => rfl
  | int short =>
    exact readsBack_scalar (fun _ => rfl) (startsScalar_int _) fun _ => readScalar_int short
  | float double =>
    exact readsBack_scalar (fun _ => rfl) (startsScalar_float double) fun _ =>
      readScalar_float double
  | str text => exact readsBack_str text
  | list documents reads => exact readsBack_list documents reads
  | dict distinct documents reads => exact readsBack_dict distinct documents reads

/-- `Json.read` inverts `Json.write` on documents. -/
theorem read_write {value : Value} (document : IsDocument value) :
    Json.read (write value) = .ok value := by
  obtain ⟨c, rest, shape, starts⟩ := startsValue_write document 0
  have mark : c ≠ '\ufeff' := ne_of_holds starts (by decide)
  have ends : EndsNumber [] := by rintro c ⟨⟩
  have token := startsToken_write document 0 []
  have read := readsBack_document document 0 (2 * (writeAt 0 value).length + 1) [] ends (by omega)
  rw [List.append_nil] at token read
  refine read_iff.mpr ⟨?_, [], ?_, rfl⟩
  · rw [write, shape, List.head?_cons]
    exact fun same => mark (Option.some.inj same)
  · rw [write, token, read]

end TypedCatalog.Json
