import Mathlib.Data.List.SplitBy
import TypedCatalog.Proofs.Json.LineEnds
import TypedCatalog.Yaml.Writer

/-! `Yaml.write` produces no carriage return: text with one is quoted and escapes it. -/
namespace TypedCatalog.Yaml

open Text

namespace Page

/-- The written part of the page is clean. -/
def IsClean (page : Page) : Prop := TypedCatalog.IsClean page.written

variable {page : Page} {text : Text}

theorem IsClean.put (clean : page.IsClean) (others : TypedCatalog.IsClean text) :
    (page.put text).IsClean :=
  (others.of_subset fun _ => List.mem_reverse.mp).append clean

theorem IsClean.newLine (clean : page.IsClean) : page.newLine.IsClean :=
  TypedCatalog.IsClean.cons (by decide) clean

theorem IsClean.indentTo (clean : page.IsClean) (column : Nat) : (page.indentTo column).IsClean := by
  have blanks (count : Nat) : TypedCatalog.IsClean (List.replicate count ' ') :=
    .replicate count (by decide)
  simp only [Page.indentTo]
  split
  · split
    · exact clean.put (blanks _)
    · exact clean
  · split
    · exact clean.newLine.put (blanks _)
    · exact clean.newLine

theorem IsClean.mark (clean : page.IsClean) (others : TypedCatalog.IsClean text)
    (needsSpace keepsIndent : Bool) : (page.mark text needsSpace keepsIndent).IsClean := by
  simp only [Page.mark]
  split
  · exact clean.put others
  · exact clean.put (.cons (by decide) others)

end Page

open Page

variable {page : Page} {text : Text}

theorem isClean_of_special (plain : text.any isSpecial = false) : IsClean text := by
  have inside : ∀ c ∈ text, (!isSpecial c) = true := by simpa using plain
  exact .of_class (by decide) inside

theorem isClean_run (clean : IsClean text) : ∀ run ∈ runs text, IsClean run := by
  intro run member
  apply clean.of_subset
  intro c inside
  have whole : (runs text).flatten = text := List.flatten_splitBy _ text
  rw [← whole]
  exact List.mem_flatten.mpr ⟨run, member, inside⟩

theorem isClean_writePlain (indent : Nat) (splits : Bool) (clean : IsClean text)
    (before : page.IsClean) : (writePlain indent splits text page).IsClean := by
  have general : ∀ (parts : List Text) (page : Page), (∀ run ∈ parts, IsClean run) →
      page.IsClean → (parts.foldl (fun page run =>
        if folds splits run page then page.indentTo indent else page.put run) page).IsClean := by
    intro parts
    induction parts with
    | nil =>
      intro page _ before
      exact before
    | cons run parts ih =>
      intro page clean before
      obtain ⟨first, others⟩ := List.forall_mem_cons.mp clean
      apply ih _ others
      dsimp only
      split
      · exact before.indentTo indent
      · exact before.put first
  apply general (runs text) _ (isClean_run clean)
  split
  · exact before
  · exact before.put (by decide)

theorem isClean_newLines (run : Text) (before : page.IsClean) :
    (run.foldl (fun page _ => page.newLine) page).IsClean := by
  induction run generalizing page with
  | nil => exact before
  | cons c run ih => exact ih before.newLine

theorem isClean_writeSingleRuns (indent : Nat) (splits isFirst : Bool) {parts : List Text}
    (clean : ∀ run ∈ parts, IsClean run) (before : page.IsClean) :
    (writeSingleRuns indent splits isFirst parts page).IsClean := by
  induction parts generalizing isFirst page with
  | nil => exact before
  | cons run parts ih =>
    obtain ⟨first, others⟩ := List.forall_mem_cons.mp clean
    apply ih false others
    split
    · exact (isClean_newLines run before.newLine).indentTo indent
    · split
      · exact before.indentTo indent
      · apply before.put (.flatMap _)
        intro c member
        split
        · decide
        · apply IsClean.cons _ .nil
          rintro rfl
          exact first member

theorem isClean_writeSingle (indent : Nat) (splits : Bool) (clean : IsClean text)
    (before : page.IsClean) : (writeSingle indent splits text page).IsClean :=
  (isClean_writeSingleRuns indent splits true (isClean_run clean)
    (before.mark (by decide) true false)).mark (by decide) false false

theorem isClean_upperHex (width n : Nat) : IsClean ((Text.hex width n).map Text.upperAscii) := by
  have digits : ∀ n < 16, upperAscii (hexDigit n) ≠ '\r' := by decide
  induction width generalizing n with
  | zero => exact .nil
  | succ width ih =>
    rw [Text.hex, List.map_append]
    exact (ih _).append (.cons (digits _ (Nat.mod_lt _ (by decide))) .nil)

theorem isClean_escape (c : Char) : IsClean (escape c) := by
  unfold escape
  simp only
  split
  · rename_i name found
    refine .cons (by decide) (.cons ?_ .nil)
    rintro rfl
    unfold escapeName? at found
    split at found <;> simp at found
  · split
    · exact .cons (by decide) (.cons (by decide) (isClean_upperHex 2 _))
    · split
      · exact .cons (by decide) (.cons (by decide) (isClean_upperHex 4 _))
      · exact .cons (by decide) (.cons (by decide) (isClean_upperHex 8 _))

theorem isClean_foldDouble (indent : Nat) (next : Option Char) (before : page.IsClean) :
    (foldDouble indent next page).IsClean := by
  have folded := (before.put (show IsClean ['\\'] by decide)).indentTo indent
  simp only [foldDouble]
  split
  · exact IsClean.put folded (by decide)
  · exact folded

theorem isClean_writeDoubleChars (indent : Nat) (splits isFirst afterEscape : Bool) (text : Text)
    (before : page.IsClean) :
    (writeDoubleChars indent splits isFirst afterEscape text page).IsClean := by
  induction text generalizing isFirst afterEscape page with
  | nil => exact before
  | cons c text ih =>
    simp only [writeDoubleChars]
    split
    · apply ih false true
      split
      · exact isClean_foldDouble indent _ (before.put (isClean_escape c))
      · exact before.put (isClean_escape c)
    · rename_i plain
      have other : c ≠ '\r' := by
        rintro rfl
        exact plain (by decide)
      refine ih false false (IsClean.put ?_ (.cons other .nil))
      split
      · exact isClean_foldDouble indent _ before
      · exact before

theorem isClean_writeDouble (indent : Nat) (splits : Bool) (text : Text) (before : page.IsClean) :
    (writeDouble indent splits text page).IsClean :=
  (isClean_writeDoubleChars indent splits true false text
    (before.mark (by decide) true false)).mark (by decide) false false

/-- The chosen style can represent the text without carriage returns. -/
theorem isClean_writeText (indent : Nat) (isKey : Bool) (text : Text) (before : page.IsClean) :
    (writeText indent isKey text page).IsClean := by
  unfold writeText styleOf
  split
  · rename_i plain
    simp only [allowsPlain, Bool.and_eq_true, Bool.not_eq_true', Bool.or_eq_false_iff] at plain
    exact isClean_writePlain indent _ (isClean_of_special plain.1.2.1.2) before
  · split
    · rename_i single
      simp only [allowsSingle, Bool.and_eq_true, Bool.not_eq_true', Bool.or_eq_false_iff] at single
      exact isClean_writeSingle indent _ (isClean_of_special single.1.1.1) before
    · exact isClean_writeDouble indent _ text before

theorem isClean_floatText (x : Binary64) : IsClean (floatText x) := by
  have sign (negative : Bool) : IsClean (Binary64.sign negative) := by cases negative <;> decide
  have written : IsClean x.text := Binary64.isClean_write (by decide) (by decide) x
  unfold floatText
  split
  · decide
  · exact (sign _).append (by decide)
  · simp only
    split
    · exact written
    · split
      · rename_i digits exponent parts
        have inside := eq_of_cut? parts
        rw [inside] at written
        refine .append (.append (written.of_subset ?_) (by decide)) (written.of_subset ?_)
        · simp +contextual
        · simp +contextual
      · exact written

theorem isClean_writeKey (indent : Nat) (key : Text) (before : page.IsClean) :
    (writeKey indent key page).IsClean := by
  have start := before.indentTo indent
  simp only [writeKey]
  split
  · exact (isClean_writeText _ true key start).mark (by decide) false false
  · refine IsClean.mark (.indentTo ?_ indent) (by decide) true true
    exact isClean_writeText _ false key (start.mark (by decide) true true)

/-- Writing the value at any place preserves clean pages. -/
def StaysClean (value : Value) : Prop :=
  ∀ indent inMapping page, page.IsClean → (writeNode indent inMapping value page).IsClean

theorem isClean_writeItems {items : List Value} (clean : ∀ item ∈ items, StaysClean item)
    (indent : Nat) (before : page.IsClean) : (writeItems indent items page).IsClean := by
  induction items generalizing page with
  | nil =>
    rw [writeItems]
    exact before
  | cons item items ih =>
    obtain ⟨first, others⟩ := List.forall_mem_cons.mp clean
    rw [writeItems]
    exact ih others (first indent false _ ((before.indentTo indent).mark (by decide) true true))

theorem isClean_writeEntries {fields : List (Text × Value)}
    (clean : ∀ field ∈ fields, StaysClean field.2) (indent : Nat) (before : page.IsClean) :
    (writeEntries indent (fields.map fun field => (.str field.1, field.2)) page).IsClean := by
  induction fields generalizing page with
  | nil =>
    rw [List.map_nil, writeEntries]
    exact before
  | cons field fields ih =>
    obtain ⟨first, others⟩ := List.forall_mem_cons.mp clean
    rw [List.map_cons, writeEntries]
    exact ih others (first indent true _ (isClean_writeKey indent field.1 before))

theorem staysClean_of_plain {value : Value} {text : Text}
    (plain : ∀ indent inMapping page,
      writeNode indent inMapping value page = writePlain (indent + 2) true text page)
    (clean : IsClean text) : StaysClean value := by
  intro indent inMapping page before
  rw [plain]
  exact isClean_writePlain _ true clean before

theorem staysClean_document {value : Value} (document : Json.IsDocument value) :
    StaysClean value := by
  induction document with
  | null => exact staysClean_of_plain (fun _ _ _ => by rw [writeNode]) (by decide)
  | bool b => exact staysClean_of_plain (fun _ _ _ => by rw [writeNode]) (by cases b <;> decide)
  | int _ => exact staysClean_of_plain (fun _ _ _ => by rw [writeNode]) (isClean_ofInt _)
  | float _ => exact staysClean_of_plain (fun _ _ _ => by rw [writeNode]) (isClean_floatText _)
  | str text =>
    intro indent inMapping page before
    rw [writeNode]
    exact isClean_writeText _ false text before
  | @list items _ clean =>
    intro indent inMapping page before
    cases items with
    | nil =>
      rw [writeNode]
      exact before.mark (by decide) true false
    | cons item items =>
      rw [writeNode]
      · exact isClean_writeItems clean _ before
      · simp
  | @dict fields _ _ clean =>
    intro indent inMapping page before
    have shape : Value.ofFields fields =
        .dict (fields.map fun field => (.str field.1, field.2)) := rfl
    rw [shape]
    cases fields with
    | nil =>
      rw [List.map_nil, writeNode]
      exact before.mark (by decide) true false
    | cons field fields =>
      rw [writeNode]
      · exact isClean_writeEntries clean _ before
      · simp

theorem isClean_write {value : Value} (document : Json.IsDocument value) :
    IsClean (write value) := by
  have empty : Page.IsClean {} := .nil
  have last {page : Page} (before : page.IsClean) : IsClean (page.indentTo 0).written.reverse :=
    (before.indentTo 0).of_subset fun c => List.mem_reverse.mp
  have node := staysClean_document document 0 false {} empty
  unfold write
  apply last
  split
  · rename_i entry entries
    generalize same : Value.dict (entry :: entries) = value at document
    cases document with
    | @dict fields distinct documents =>
      have shape : entry :: entries = fields.map fun field => (.str field.1, field.2) :=
        Value.dict.inj same
      rw [shape]
      exact isClean_writeEntries (fun field member => staysClean_document (documents field member))
        0 empty
    | _ => contradiction
  · cases document with
    | list documents =>
      exact isClean_writeItems (fun item member => staysClean_document (documents item member))
        0 empty
  · exact node

end TypedCatalog.Yaml
