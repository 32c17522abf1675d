import TypedCatalog.Proofs.Declaration.Tokens

/-! The header comment quotes the schema name without escaping. It ends at its own `endMark` if and
only if the name contains none; otherwise the rest of the name is program text. -/
namespace TypedCatalog.Declaration

open Catalog

variable {text first second : Text}

def endMark : Text := ['*', '/']

/-- No `endMark` arises at the seam of two texts unless the first ends in a star and the second
starts with a slash. -/
theorem endMark_append (apart : first.getLast? ≠ some '*' ∨ second.head? ≠ some '/') :
    endMark <:+: first ++ second ↔ endMark <:+: first ∨ endMark <:+: second := by
  constructor
  · intro inside
    induction first with
    | nil => exact .inr inside
    | cons c first ih =>
      rcases List.infix_cons_iff.mp inside with starts | inside
      · obtain ⟨rfl, slash⟩ := List.cons_prefix_cons.mp starts
        cases first with
        | nil =>
          obtain ⟨rest, rfl⟩ := slash
          simp at apart
        | cons d first =>
          obtain ⟨rfl, -⟩ := List.cons_prefix_cons.mp slash
          exact .inl ⟨[], first, rfl⟩
      · cases first with
        | nil => exact .inr inside
        | cons d first =>
          rw [List.getLast?_cons_cons] at apart
          exact (ih apart inside).imp_left fun held => held.trans (List.suffix_cons c _).isInfix
  · rintro (inside | inside)
    · exact inside.trans (List.prefix_append first second).isInfix
    · exact inside.trans (List.suffix_append first second).isInfix

/-- An `endMark` of a text does not start inside a front part that, followed by a star, contains
none. -/
theorem prefix_of_closed {front back before after : Text} (closed : ¬ endMark <:+: front ++ ['*'])
    (split : front ++ (endMark ++ back) = before ++ (endMark ++ after)) : front <+: before := by
  have whole : front <+: before ++ (endMark ++ after) := ⟨_, split⟩
  refine List.prefix_of_prefix_length_le whole (List.prefix_append _ _) ?_
  by_contra short
  have mark : before ++ endMark <+: before ++ (endMark ++ after) := ⟨after, List.append_assoc _ _ _⟩
  have star : front ++ ['*'] <+: before ++ (endMark ++ after) := by
    rw [← split]
    exact ⟨_, List.append_assoc _ _ _⟩
  have inside : before ++ endMark <+: front ++ ['*'] := by
    refine List.prefix_of_prefix_length_le mark star ?_
    simp only [endMark, List.length_append, List.length_cons, List.length_nil]
    omega
  exact closed ((List.suffix_append before endMark).isInfix.trans inside.isInfix)

/-- `skip` leaves a block comment at its first `endMark`. -/
theorem skip_closed (closed : ¬ endMark <:+: text ++ ['*']) (rest : Text) :
    skip .block (text ++ (endMark ++ rest)) = skip .blank rest := by
  induction text with
  | nil => rfl
  | cons c text ih =>
    rw [List.cons_append, List.infix_cons_iff, not_or] at closed
    rw [List.cons_append, skip_block, ih closed.2]
    rintro rfl head
    apply closed.1
    cases text with
    | nil => simp [endMark] at head
    | cons d text =>
      obtain rfl : d = '/' := by simpa using head
      exact ⟨text ++ ['*'], rfl⟩

/-- The header before the schema name. -/
def title : Text := "/**\n * Generated TypeScript types for the \""

/-- The header between the schema name and its `endMark`. -/
def ending : Text := "\" schema\n "

/-- The header before its own `endMark`. -/
def opening (schema : Text) : Text := title ++ (schema ++ ending)

theorem schemaModule_eq (schema : Schema) : schemaModule schema =
    opening schema.name ++ (endMark ++ '\n' :: (sections schema).flatMap Section.text) := by
  have closing : ("\" schema\n */\n" : Text) = ending ++ (endMark ++ ['\n']) := by rfl
  have parts : schemaModule schema = title ++ schema.name ++ ("\" schema\n */\n" : Text) ++
      (sections schema).flatMap Section.text := rfl
  rw [parts, closing, opening]
  simp only [List.append_assoc, List.singleton_append]

theorem endMark_title (text : Text) : endMark <:+: title ++ text ↔ endMark <:+: text := by
  have last : title.getLast? ≠ some '*' := by decide
  have unmarked : ¬ endMark <:+: title := by decide +kernel
  rw [endMark_append (.inl last), or_iff_right unmarked]

theorem endMark_ending (text : Text) :
    endMark <:+: text ++ (ending ++ ['*']) ↔ endMark <:+: text := by
  have first : (ending ++ ['*']).head? ≠ some '/' := by decide
  have unmarked : ¬ endMark <:+: ending ++ ['*'] := by decide +kernel
  rw [endMark_append (.inr first), or_iff_left unmarked]

/-- `opening` precedes each `endMark` of the module if and only if the schema name has none. -/
theorem opening_prefix_iff (schema : Schema) :
    (∀ before after, schemaModule schema = before ++ (endMark ++ after) →
      opening schema.name <+: before) ↔ ¬ endMark <:+: schema.name := by
  rw [schemaModule_eq]
  constructor
  · rintro first ⟨front, back, name⟩
    have early := first (title ++ front)
      (back ++ (ending ++ (endMark ++ '\n' :: (sections schema).flatMap Section.text)))
      (by simp [opening, ← name])
    have longer := early.length_le
    have parts := congrArg List.length name
    simp only [opening, endMark, List.length_append, List.length_cons] at longer parts
    omega
  · intro free before after split
    refine prefix_of_closed ?_ split
    rwa [opening, List.append_assoc, endMark_title, List.append_assoc, endMark_ending]

theorem skip_title (closed : ¬ endMark <:+: text ++ ['*']) (rest : Text) :
    skip .blank (title ++ (text ++ (endMark ++ rest))) = skip .blank rest := by
  obtain ⟨inner, shape⟩ : ∃ inner, title = '/' :: '*' :: inner := ⟨_, rfl⟩
  have inside : inner ++ (text ++ ['*']) <:+: title ++ (text ++ ['*']) := by
    rw [shape]
    exact ⟨['/', '*'], [], by simp⟩
  have unclosed : ¬ endMark <:+: inner ++ text ++ ['*'] := by
    intro mark
    rw [List.append_assoc] at mark
    exact closed ((endMark_title _).mp (mark.trans inside))
  have start : skip .blank (title ++ (text ++ (endMark ++ rest))) =
      skip .block (inner ++ text ++ (endMark ++ rest)) := by
    rw [shape, List.append_assoc]
    rfl
  rw [start, skip_closed unclosed]

/-- The first `endMark` of a module is that of its header if and only if the schema name contains
none. In that case `skip` reaches the sections; otherwise it leaves the comment inside the name,
after the first `endMark` there. -/
theorem header_closed_iff (schema : Schema) :
    ((∀ before after, schemaModule schema = before ++ (endMark ++ after) →
      opening schema.name <+: before) ↔ ¬ endMark <:+: schema.name) ∧
    (¬ endMark <:+: schema.name →
      skip .blank (schemaModule schema) =
        skip .blank ((sections schema).flatMap Section.text)) ∧
    ∀ front back, schema.name = front ++ (endMark ++ back) → ¬ endMark <:+: front ++ ['*'] →
      skip .blank (schemaModule schema) = skip .blank (back ++ (ending ++ (endMark ++
        '\n' :: (sections schema).flatMap Section.text))) := by
  refine ⟨opening_prefix_iff schema, fun free => ?_, fun front back name first => ?_⟩
  · have closed : ¬ endMark <:+: schema.name ++ ending ++ ['*'] := by
      rwa [List.append_assoc, endMark_ending]
    rw [schemaModule_eq, opening, List.append_assoc, skip_title closed]
    rfl
  · rw [schemaModule_eq, opening, name]
    simp only [List.append_assoc]
    exact skip_title first _

def publicSchema : Schema := { name := "public" }

/-- A schema name that closes the comment and opens another. -/
def calling : Schema := { name := "*/ alert() /*" }

def call : Text := " alert() /*"

theorem header_closed_iff_calling :
    ¬ endMark <:+: publicSchema.name ∧ skip .blank (schemaModule publicSchema) = some [] ∧
      calling.name = [] ++ (endMark ++ call) ∧ ¬ endMark <:+: [] ++ ['*'] ∧
      skip .blank (schemaModule calling) = some ("alert() /*\" schema\n */\n" : Text) := by
  have free : ¬ endMark <:+: publicSchema.name := by decide +kernel
  have name : calling.name = [] ++ (endMark ++ call) := rfl
  have first : ¬ endMark <:+: [] ++ ['*'] := by decide +kernel
  obtain ⟨-, plain, -⟩ := header_closed_iff publicSchema
  obtain ⟨-, -, early⟩ := header_closed_iff calling
  refine ⟨free, (plain free).trans rfl, name, first, ?_⟩
  rw [early [] call name first]
  rfl

/-- `calling` puts program text before the `endMark` of its header. -/
theorem calling_leaves :
    ¬ (∀ before after, schemaModule calling = before ++ (endMark ++ after) →
      opening calling.name <+: before) ∧
    skip .blank (schemaModule calling) = some ("alert() /*\" schema\n */\n" : Text) := by
  constructor
  · rw [opening_prefix_iff, not_not]
    exact ⟨[], call, rfl⟩
  · rfl

end TypedCatalog.Declaration
