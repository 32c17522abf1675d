import TypedCatalog.Declaration.Module
import TypedCatalog.Proofs.Declaration.Reader
import TypedCatalog.Proofs.Json.Literal
import TypedCatalog.Proofs.Text.Digits

/-! Decoding of single tokens by the functions of the reader. Each lemma assumes that the token
starts after `skip`, so the gap in front of it is irrelevant. -/
namespace TypedCatalog.Declaration

open Catalog

theorem skip_token {c : Char} (slash : c ≠ '/') (space : Json.isSpace c = false) (rest : Text) :
    skip .blank (c :: rest) = some (c :: rest) := by
  rw [skip.eq_3 c rest (fun _ same _ => slash same) (fun _ same _ => slash same), space]
  rfl

theorem skip_line {title : Text} (inside : ∀ c ∈ title, endsLine c = false) (rest : Text) :
    skip .line (title ++ '\n' :: rest) = skip .blank rest := by
  induction title with
  | nil => rfl
  | cons c title ih =>
    rw [List.cons_append, skip.eq_4, inside c (by simp)]
    exact ih fun d member => inside d (by simp [member])

theorem skip_block {c : Char} {rest : Text} (stays : c = '*' → rest.head? ≠ some '/') :
    skip .block (c :: rest) = skip .block rest := by
  apply skip.eq_6
  rintro rest rfl rfl
  exact stays rfl rfl

/-- `skip` leaves a comment written by `keepOpen` at its own `endMark`. -/
theorem skip_keepOpen (comment rest : Text) :
    skip .block (keepOpen comment ++ ' ' :: '*' :: '/' :: rest) = skip .blank rest := by
  induction comment using keepOpen.induct with
  | case1 comment ih =>
    rw [keepOpen, List.cons_append, List.cons_append, List.cons_append, skip_block (by simp),
      skip_block (by simp), skip_block (by simp), ih]
  | case2 c comment other ih =>
    rw [keepOpen.eq_2 _ _ other, List.cons_append, skip_block, ih]
    intro star head
    cases comment with
    | nil => simp [keepOpen] at head
    | cons d comment =>
      have slash : d = '/' := by
        by_cases ends : ∃ tail, d = '*' ∧ comment = '/' :: tail
        · obtain ⟨tail, rfl, rfl⟩ := ends
          simp [keepOpen] at head
        · rw [keepOpen.eq_2 _ _ fun tail same equal => ends ⟨tail, same, equal⟩] at head
          simpa using head
      exact other comment star (slash ▸ rfl)
  | case3 => rfl

theorem skip_commentLines (property : Property) (rest : Text) :
    skip .blank (endLines property.commentLines ++ rest) = skip .blank rest := by
  unfold Property.commentLines
  split
  · rfl
  · have shape : endLines ["  /** " ++ keepOpen property.comment ++ " */"] ++ rest =
        ' ' :: ' ' :: '/' :: '*' :: '*' :: ' ' :: (keepOpen property.comment ++
          ' ' :: '*' :: '/' :: '\n' :: rest) := by
      simp [endLines]
    rw [shape]
    exact skip_keepOpen property.comment ('\n' :: rest)

variable {text rest : Text}

theorem readMark_eq {mark : Char} (start : skip .blank text = some (mark :: rest)) :
    readMark mark text = some rest := by
  simp only [readMark, start, if_true]

theorem readRun_eq {holds : Char → Bool} {run : Text}
    (start : skip .blank text = some (run ++ rest)) (inside : ∀ c ∈ run, holds c = true)
    (outside : ∀ c, rest.head? = some c → holds c = false) :
    readRun holds text = some (run, rest) := by
  obtain ⟨taken, left⟩ := Text.span_run inside outside
  simp only [readRun, start, Option.map_some, taken, left]

theorem readIdentifier_eq {word : Text} (start : skip .blank text = some (word ++ rest))
    (named : word ≠ []) (inside : ∀ c ∈ word, Name.isIdentifierChar c = true)
    (outside : ∀ c, rest.head? = some c → Name.isIdentifierChar c = false) :
    readIdentifier text = some (word, rest) := by
  obtain ⟨c, word, rfl⟩ := List.exists_cons_of_ne_nil named
  simp only [readIdentifier, readRun_eq start inside outside]

theorem readText_literal (value rest : Text) :
    Json.readText ((Json.literal value ++ rest).drop 1) = .ok (value, rest) := by
  simpa [Json.literal] using Json.readText_escapes value rest

theorem readLiteral_eq {value : Text} (start : skip .blank text = some (Json.literal value ++ rest)) :
    readLiteral text = some (value, rest) := by
  have read := readText_literal value rest
  simp only [Json.literal, List.cons_append, List.drop_one, List.tail_cons] at start read
  simp only [readLiteral, start, read, Except.toOption]

theorem isIdentifier_cons {name : Text} (identifier : Name.isIdentifier name = true) :
    ∃ c rest, name = c :: rest ∧ ∀ d ∈ name, Name.isIdentifierChar d = true := by
  cases name with
  | nil => simp [Name.isIdentifier] at identifier
  | cons c rest =>
    simp only [Name.isIdentifier, Bool.and_eq_true, List.all_eq_true] at identifier
    refine ⟨c, rest, rfl, ?_⟩
    intro d member
    rcases List.mem_cons.mp member with rfl | member
    · have first := identifier.1
      simp only [Name.isIdentifierStart, Name.isIdentifierChar, Text.isAlnum] at first ⊢
      grind
    · exact identifier.2 d member

theorem readKey_eq {name : Text} (start : skip .blank text = some (Name.propertyKey name ++ rest))
    (outside : ∀ c, rest.head? = some c → Name.isIdentifierChar c = false) :
    readKey text = some (name, rest) := by
  unfold Name.propertyKey at start
  split at start
  · rename_i identifier
    obtain ⟨c, word, rfl, inside⟩ := isIdentifier_cons identifier
    have plain : c ≠ '"' := by
      rintro rfl
      exact absurd (inside '"' (by simp)) (by decide)
    have read := readIdentifier_eq start (by simp) inside outside
    unfold readKey
    rw [start]
    split
    · rename_i found
      simp only [List.cons_append, Option.some.injEq, List.cons.injEq] at found
      exact absurd found.1 plain
    · exact read
  · have read := readText_literal name rest
    simp only [Json.literal, List.cons_append, List.drop_one, List.tail_cons] at start read
    simp only [readKey, start, read, Except.toOption]

end TypedCatalog.Declaration
