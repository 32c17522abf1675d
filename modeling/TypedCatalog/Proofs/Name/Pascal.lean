import TypedCatalog.Proofs.Name

/-! `Name.pascal` word by word: separators and case do not matter, and the second iterate is a fixed
point. -/
namespace TypedCatalog

namespace Text

variable {c d : Char}

theorem lowerAscii_lowerAscii (c : Char) : lowerAscii (lowerAscii c) = lowerAscii c :=
  forall_formed (fun c => lowerAscii (lowerAscii c) = lowerAscii c) (by decide)
    (fun _ lower _ => congrArg lowerAscii lower) c

theorem lowerAscii_upperAscii (c : Char) : lowerAscii (upperAscii c) = lowerAscii c :=
  forall_formed (fun c => lowerAscii (upperAscii c) = lowerAscii c) (by decide)
    (fun _ _ upper => congrArg lowerAscii upper) c

theorem upperAscii_lowerAscii (c : Char) : upperAscii (lowerAscii c) = upperAscii c :=
  forall_formed (fun c => upperAscii (lowerAscii c) = upperAscii c) (by decide)
    (fun _ lower _ => congrArg upperAscii lower) c

/-- Equal up to ASCII case. -/
def SameLetter (c d : Char) : Prop := d = c ∨ d = lowerAscii c ∨ d = upperAscii c

instance (c d : Char) : Decidable (SameLetter c d) := inferInstanceAs (Decidable (_ ∨ _))

theorem SameLetter.lower_eq (same : SameLetter c d) : lowerAscii d = lowerAscii c := by
  rcases same with rfl | rfl | rfl
  · rfl
  · exact lowerAscii_lowerAscii c
  · exact lowerAscii_upperAscii c

/-- Equal up to ASCII case, character by character. -/
def Recased (text other : Text) : Prop := List.Forall₂ SameLetter text other

instance (text other : Text) : Decidable (Recased text other) :=
  inferInstanceAs (Decidable (List.Forall₂ SameLetter text other))

theorem Recased.lower_eq {text other : Text} (recased : Recased text other) :
    other.map lowerAscii = text.map lowerAscii := by
  induction recased with
  | nil => rfl
  | cons first _ ih => rw [List.map_cons, List.map_cons, first.lower_eq, ih]

end Text

namespace Name

open Text

variable {word name other : Text}

/-- `pascal` of two texts with a nonempty separator between them is the concatenation. -/
theorem pascal_apart {gap : Text} (filled : gap ≠ []) (outside : ∀ c ∈ gap, isAlnum c = false)
    (front back : Text) : pascal (front ++ gap ++ back) = pascal front ++ pascal back := by
  have separates : ∀ c ∈ gap, (!isAlnum c) = true := fun c member => by simp [outside c member]
  rw [pascal, wordsBy_apart filled separates, List.flatMap_append, ← pascal, ← pascal]

theorem pascal_word (inside : ∀ c ∈ word, isAlnum c = true) : pascal word = capitalize word := by
  cases word with
  | nil => rfl
  | cons c word =>
    have words : wordsBy (fun c => !isAlnum c) (c :: word) = [c :: word] :=
      wordsBy_word (List.cons_ne_nil c word) fun d member => by simp [inside d member]
    rw [pascal, words, List.flatMap_singleton]

theorem capitalize_lower (word : Text) : capitalize (word.map lowerAscii) = capitalize word := by
  cases word with
  | nil => rfl
  | cons c word =>
    simp only [List.map_cons, capitalize, upperAscii_lowerAscii, List.map_map]
    congr 2
    funext d
    exact lowerAscii_lowerAscii d

theorem pascal_lower (name : Text) : pascal (name.map lowerAscii) = pascal name := by
  have separates (c : Char) : (!isAlnum (lowerAscii c)) = !isAlnum c := by rw [isAlnum_lowerAscii]
  rw [pascal, wordsBy_map separates, List.flatMap_map, pascal]
  congr 1
  funext word
  exact capitalize_lower word

/-- `pascal` is invariant under `Recased`. -/
theorem pascal_recased (recased : Recased name other) : pascal other = pascal name := by
  rw [← pascal_lower other, recased.lower_eq, pascal_lower]

theorem recased_capitalize (word : Text) : Recased word (capitalize word) := by
  cases word with
  | nil => exact .nil
  | cons c word =>
    refine .cons (.inr (.inr rfl)) (List.forall₂_map_right_iff.mpr ?_)
    exact List.forall₂_same.mpr fun _ _ => .inr (.inl rfl)

theorem recased_camel (name : Text) : Recased (pascal name) (camel name) := by
  unfold camel
  split
  · rename_i empty
    rw [empty]
    exact .nil
  · rename_i c rest shape
    rw [shape]
    exact .cons (.inr (.inl rfl)) (List.forall₂_same.mpr fun _ _ => .inl rfl)

/-- The third iterate of `pascal` is the second. -/
theorem pascal_pascal_pascal (name : Text) :
    pascal (pascal (pascal name)) = pascal (pascal name) := by
  have word : pascal (pascal name) = capitalize (pascal name) := pascal_word (isAlnum_pascal name)
  calc pascal (pascal (pascal name)) = pascal (capitalize (pascal name)) := by rw [word]
    _ = pascal (pascal name) := pascal_recased (recased_capitalize (pascal name))

/-- `pascal` is the concatenation of the capitalized words, for every nonempty separator, and yields
alphanumeric text. It is invariant under `Recased`, its second iterate is a fixed point, and
`pascal` after `camel` equals `pascal` after `pascal`. -/
theorem pascal_by_words :
    (∀ front gap back : Text, gap ≠ [] → (∀ c ∈ gap, isAlnum c = false) →
      pascal (front ++ gap ++ back) = pascal front ++ pascal back) ∧
    (∀ word : Text, (∀ c ∈ word, isAlnum c = true) → pascal word = capitalize word) ∧
    ∀ name : Text, (∀ c ∈ pascal name, isAlnum c = true) ∧
      (∀ other, Recased name other → pascal other = pascal name) ∧
      pascal (pascal (pascal name)) = pascal (pascal name) ∧
      pascal (camel name) = pascal (pascal name) := by
  refine ⟨fun front gap back filled outside => pascal_apart filled outside front back,
    fun word inside => pascal_word inside, fun name => ?_⟩
  refine ⟨isAlnum_pascal name, fun other recased => pascal_recased recased,
    pascal_pascal_pascal name, ?_⟩
  exact pascal_recased (recased_camel name)

/-- A separator of two characters, a word with a capital inside, and a name in inverted case. -/
theorem pascal_by_words_orders :
    ((['_', 'é'] : Text) ≠ [] ∧ (∀ c ∈ ['_', 'é'], isAlnum c = false) ∧
      pascal ("order" ++ ['_', 'é'] ++ "lineItems") = pascal "order" ++ pascal "lineItems") ∧
    ((∀ c ∈ ("lineItems" : Text), isAlnum c = true) ∧
      pascal "lineItems" = capitalize "lineItems") ∧
    Recased "user_ID" "USER_id" ∧ pascal "USER_id" = pascal "user_ID" := by
  have filled : (['_', 'é'] : Text) ≠ [] := by decide
  have outside : ∀ c ∈ ['_', 'é'], isAlnum c = false :=
    List.forall_mem_cons.mpr ⟨by decide, List.forall_mem_singleton.mpr (by decide)⟩
  have inside : ∀ c ∈ ("lineItems" : Text), isAlnum c = true := List.all_eq_true.mp rfl
  have recased : Recased "user_ID" "USER_id" := by decide
  refine ⟨⟨filled, outside, ?_⟩, ⟨inside, ?_⟩, recased, ?_⟩
  · exact pascal_by_words.1 "order" ['_', 'é'] "lineItems" filled outside
  · exact pascal_by_words.2.1 "lineItems" inside
  · exact (pascal_by_words.2.2 "user_ID").2.1 "USER_id" recased

end Name
end TypedCatalog
