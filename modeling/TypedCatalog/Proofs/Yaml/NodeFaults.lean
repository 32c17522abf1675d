import TypedCatalog.Proofs.Yaml.LexerFaults
import TypedCatalog.Yaml.Node

/-! The node parser stops with a syntax problem, or with the stop of its tokens. -/
namespace TypedCatalog.Yaml

namespace Parser

variable {α β : Type} {parser : Parser α} {following : α → Parser β}

/-- The parser stops with a syntax problem, or with the stop of its tokens. -/
def StopsWithTokens (parser : Parser α) : Prop :=
  ∀ s : Parse, s.stop.IsOfText → StopsInText (parser s) ∧
    ∀ value after, parser s = .ok (value, after) → after.stop.IsOfText

theorem stops_bind (first : StopsWithTokens parser)
    (rest : ∀ value, StopsWithTokens (following value)) :
    StopsWithTokens (parser >>= following) := by
  intro s known
  obtain ⟨stops, keeps⟩ := first s known
  change StopsInText (parser s >>= fun done => following done.1 done.2) ∧ ∀ value after,
    (parser s >>= fun done => following done.1 done.2) = .ok (value, after) → after.stop.IsOfText
  cases done : parser s with
  | error stop => exact ⟨.error (stops.allows done), fun _ _ same => nomatch same⟩
  | ok result => exact rest result.1 result.2 (keeps result.1 result.2 done)

theorem stops_pure (value : α) : StopsWithTokens (pure value : Parser α) := by
  intro s known
  refine ⟨.ok _, fun _ _ same => ?_⟩
  cases same
  exact known

theorem stops_fail (problem : YamlProblem) : StopsWithTokens (fail problem : Parser α) := by
  intro s known
  exact ⟨.error (.problem problem), fun _ _ same => nomatch same⟩

theorem stops_peek : StopsWithTokens peek := by
  intro s known
  unfold peek
  split
  · exact ⟨.error known, fun _ _ same => nomatch same⟩
  · refine ⟨.ok _, fun _ _ same => ?_⟩
    cases same
    exact known

/-- A state change that preserves the stop of the tokens. -/
theorem stops_modify {change : Parse → Parse} (keeps : ∀ s, (change s).stop = s.stop) :
    StopsWithTokens (modify change : Parser Unit) := by
  intro s known
  refine ⟨.ok _, fun _ _ same => ?_⟩
  cases same
  rw [keeps]
  exact known

theorem stops_next : StopsWithTokens Parser.next := stops_modify fun _ => rfl

theorem stops_get : StopsWithTokens (get : Parser Parse) := by
  intro s known
  refine ⟨.ok _, fun _ _ same => ?_⟩
  cases same
  exact known

theorem stops_ite {condition : Prop} [Decidable condition] {other : Parser α}
    (first : StopsWithTokens parser) (second : StopsWithTokens other) :
    StopsWithTokens (if condition then parser else other) := by
  split
  · exact first
  · exact second

/-- A check before the rest of a parser. -/
theorem stops_check {isWrong : Prop} [Decidable isWrong] {problem : YamlProblem}
    {rest : Unit → Parser α} (each : StopsWithTokens (rest ())) :
    StopsWithTokens (if isWrong then fail problem >>= rest else rest ()) :=
  stops_ite (stops_bind (stops_fail _) fun _ => each) each

theorem stops_properties : StopsWithTokens properties := by
  unfold properties
  refine stops_bind stops_peek fun token => ?_
  split
  · refine stops_bind stops_next fun _ => stops_bind stops_peek fun token => ?_
    split
    · exact stops_bind stops_next fun _ => stops_pure _
    · exact stops_pure _
  · refine stops_bind stops_next fun _ => stops_bind stops_peek fun token => ?_
    split
    · exact stops_bind stops_next fun _ => stops_pure _
    · exact stops_pure _
  · exact stops_pure _

theorem stops_fullName (tag : TagName) : StopsWithTokens (fullName tag) := by
  unfold fullName
  split
  · exact stops_pure _
  · refine stops_bind stops_get fun _ => ?_
    split
    · exact stops_pure _
    · exact stops_fail _

theorem stops_declare (anchor : Option Text) (node : Node) :
    StopsWithTokens (declare anchor node) := by
  unfold declare
  split
  · exact stops_pure _
  · exact stops_bind stops_get fun _ => stops_ite (stops_fail _) (stops_modify fun _ => rfl)

theorem stops_complete (anchor : Option Text) (node : Node) :
    StopsWithTokens (complete anchor node) := by
  unfold complete
  split
  · exact stops_pure _
  · exact stops_bind (stops_modify fun _ => rfl) fun _ => stops_pure _

theorem stops_referred (name : Text) : StopsWithTokens (referred name) := by
  unfold referred
  refine stops_bind stops_get fun _ => ?_
  split
  · exact stops_pure _
  · exact stops_fail _

/-- `StopsWithTokens` for all node parsers with this fuel. -/
structure NodesStop (fuel : Nat) : Prop where
  node : ∀ isBlock isIndentless, StopsWithTokens (node fuel isBlock isIndentless)
  nodeUnless : ∀ ends isBlock isIndentless,
    StopsWithTokens (nodeUnless fuel ends isBlock isIndentless)
  valueUnless : ∀ ends isBlock, StopsWithTokens (valueUnless fuel ends isBlock)
  blockItems : StopsWithTokens (blockItems fuel)
  indentlessItems : StopsWithTokens (indentlessItems fuel)
  blockEntries : StopsWithTokens (blockEntries fuel)
  flowItems : ∀ isFirst, StopsWithTokens (flowItems fuel isFirst)
  flowEntries : ∀ isFirst, StopsWithTokens (flowEntries fuel isFirst)

namespace NodesStop

variable {fuel : Nat}

theorem zero : NodesStop 0 := by
  constructor
  · exact fun _ _ => stops_fail _
  · exact fun _ _ _ => stops_fail _
  · exact fun _ _ => stops_fail _
  · exact stops_fail _
  · exact stops_fail _
  · exact stops_fail _
  · exact fun _ => stops_fail _
  · exact fun _ => stops_fail _

theorem node_succ (inner : NodesStop fuel) (isBlock isIndentless : Bool) :
    StopsWithTokens (Parser.node (fuel + 1) isBlock isIndentless) := by
  unfold Parser.node
  refine stops_bind stops_peek fun token => ?_
  split
  · exact stops_bind stops_next fun _ => stops_referred _
  · refine stops_bind stops_properties ?_
    rintro ⟨anchor, tag⟩
    refine stops_bind ?_ fun tag => ?_
    · cases tag with
      | none => exact stops_pure _
      | some tag => exact stops_bind (stops_fullName tag) fun _ => stops_pure _
    · have collection {γ : Type} {read : Parser γ} (empty : Node) (make : γ → Node)
          (reads : StopsWithTokens read) : StopsWithTokens (do
            declare anchor empty
            complete anchor (make (← read))) :=
        stops_bind (stops_declare _ _) fun _ => stops_bind reads fun _ => stops_complete _ _
      have scalar (node : Node) : StopsWithTokens (do
          declare anchor node
          return node) :=
        stops_bind (stops_declare _ _) fun _ => stops_pure _
      have orEmpty (node : Node) : StopsWithTokens (
          if anchor.isSome || tag.isSome then (do declare anchor node; return node)
          else fail .place) :=
        stops_ite (scalar node) (stops_fail _)
      refine stops_bind stops_peek fun token => ?_
      split
      · exact stops_ite (collection _ _ inner.indentlessItems) (orEmpty _)
      · exact stops_bind stops_next fun _ => scalar _
      · exact stops_bind stops_next fun _ => collection _ _ (inner.flowItems _)
      · exact stops_bind stops_next fun _ => collection _ _ (inner.flowEntries _)
      · exact stops_ite (stops_bind stops_next fun _ => collection _ _ inner.blockItems) (orEmpty _)
      · exact stops_ite (stops_bind stops_next fun _ => collection _ _ inner.blockEntries)
          (orEmpty _)
      · exact orEmpty _

theorem nodeUnless_succ (inner : NodesStop fuel) (ends : Token → Bool)
    (isBlock isIndentless : Bool) :
    StopsWithTokens (Parser.nodeUnless (fuel + 1) ends isBlock isIndentless) := by
  unfold Parser.nodeUnless
  exact stops_bind stops_peek fun _ => stops_ite (stops_pure _) (inner.node _ _)

theorem valueUnless_succ (inner : NodesStop fuel) (ends : Token → Bool) (isBlock : Bool) :
    StopsWithTokens (Parser.valueUnless (fuel + 1) ends isBlock) := by
  unfold Parser.valueUnless
  refine stops_bind stops_peek fun token => ?_
  split
  · exact stops_bind stops_next fun _ => inner.nodeUnless _ _ _
  · exact stops_pure _

/-- A member before the following ones. -/
theorem stops_cons {others : Parser (List α)} (member : α) (stops : StopsWithTokens others) :
    StopsWithTokens (do return member :: (← others)) :=
  stops_bind stops fun _ => stops_pure _

/-- An entry before the following ones. -/
theorem stops_entry (inner : NodesStop fuel) {others : Parser (List α)}
    (atKey atValue : Token → Bool) (isBlock : Bool) (entry : Node → Node → α)
    (stops : StopsWithTokens others) : StopsWithTokens (do
      next
      let key ← Parser.nodeUnless fuel atKey isBlock isBlock
      let value ← Parser.valueUnless fuel atValue isBlock
      return entry key value :: (← others)) :=
  stops_bind stops_next fun _ => stops_bind (inner.nodeUnless _ _ _) fun _ =>
    stops_bind (inner.valueUnless _ _) fun _ => stops_cons _ stops

/-- The separator, which the first member lacks. -/
theorem stops_comma {isFirst : Bool} {rest : Unit → Parser α} (each : StopsWithTokens (rest ())) :
    StopsWithTokens (if isFirst then fail .place >>= rest else next >>= rest) :=
  stops_ite (stops_bind (stops_fail _) fun _ => each) (stops_bind stops_next fun _ => each)

/-- No separator before the first member. -/
theorem stops_noComma {isFirst : Bool} {rest : Unit → Parser α}
    (each : StopsWithTokens (rest ())) :
    StopsWithTokens (if isFirst then rest () else fail .place >>= rest) :=
  stops_ite each (stops_bind (stops_fail _) fun _ => each)

theorem blockItems_succ (inner : NodesStop fuel) :
    StopsWithTokens (Parser.blockItems (fuel + 1)) := by
  unfold Parser.blockItems
  refine stops_bind stops_peek fun token => ?_
  split
  · exact stops_bind stops_next fun _ => stops_bind (inner.nodeUnless _ _ _) fun _ =>
      stops_cons _ inner.blockItems
  · exact stops_bind stops_next fun _ => stops_pure _
  · exact stops_fail _

theorem indentlessItems_succ (inner : NodesStop fuel) :
    StopsWithTokens (Parser.indentlessItems (fuel + 1)) := by
  unfold Parser.indentlessItems
  refine stops_bind stops_peek fun token => ?_
  split
  · exact stops_bind stops_next fun _ => stops_bind (inner.nodeUnless _ _ _) fun _ =>
      stops_cons _ inner.indentlessItems
  · exact stops_pure _

theorem blockEntries_succ (inner : NodesStop fuel) :
    StopsWithTokens (Parser.blockEntries (fuel + 1)) := by
  unfold Parser.blockEntries
  refine stops_bind stops_peek fun token => ?_
  split
  · exact inner.stops_entry _ _ _ _ inner.blockEntries
  · exact stops_bind stops_next fun _ => stops_pure _
  · exact stops_fail _

theorem flowItems_succ (inner : NodesStop fuel) (isFirst : Bool) :
    StopsWithTokens (Parser.flowItems (fuel + 1) isFirst) := by
  unfold Parser.flowItems
  refine stops_bind stops_peek fun token => ?_
  dsimp only
  split
  case h_1 => exact stops_bind stops_next fun _ => stops_pure _
  case' h_2 => refine stops_comma ?_
  case' h_3 => refine stops_noComma ?_
  -- What follows is read in one way, whether or not a comma stands in front of it.
  all_goals
    refine stops_bind stops_peek fun token => ?_
    split
    · exact stops_bind stops_next fun _ => stops_pure _
    · exact inner.stops_entry _ _ _ _ (inner.flowItems _)
    · exact stops_bind (inner.node _ _) fun _ => stops_cons _ (inner.flowItems _)

theorem flowEntries_succ (inner : NodesStop fuel) (isFirst : Bool) :
    StopsWithTokens (Parser.flowEntries (fuel + 1) isFirst) := by
  unfold Parser.flowEntries
  refine stops_bind stops_peek fun token => ?_
  dsimp only
  split
  case h_1 => exact stops_bind stops_next fun _ => stops_pure _
  case' h_2 => refine stops_comma ?_
  case' h_3 => refine stops_noComma ?_
  all_goals
    refine stops_bind stops_peek fun token => ?_
    split
    · exact stops_bind stops_next fun _ => stops_pure _
    · exact inner.stops_entry _ _ _ _ (inner.flowEntries _)
    · exact stops_bind (inner.node _ _) fun _ => stops_cons _ (inner.flowEntries _)

theorem all (fuel : Nat) : NodesStop fuel := by
  induction fuel with
  | zero => exact zero
  | succ fuel inner =>
    exact {
      node := inner.node_succ
      nodeUnless := inner.nodeUnless_succ
      valueUnless := inner.valueUnless_succ
      blockItems := inner.blockItems_succ
      indentlessItems := inner.indentlessItems_succ
      blockEntries := inner.blockEntries_succ
      flowItems := inner.flowItems_succ
      flowEntries := inner.flowEntries_succ }

end NodesStop

theorem stops_directives (fuel : Nat) (hasVersion : Bool) :
    StopsWithTokens (directives fuel hasVersion) := by
  induction fuel generalizing hasVersion with
  | zero => exact stops_fail _
  | succ fuel ih =>
    unfold directives
    refine stops_bind stops_peek fun token => ?_
    split
    · exact stops_check (stops_bind stops_next fun _ => ih _)
    · exact stops_bind stops_get fun _ => stops_check <|
        stops_bind stops_next fun _ => stops_bind (stops_modify fun _ => rfl) fun _ => ih _
    · exact stops_bind stops_next fun _ => ih _
    · exact stops_pure _

theorem stops_skipDocumentEnds (fuel : Nat) : StopsWithTokens (skipDocumentEnds fuel) := by
  induction fuel with
  | zero => exact stops_pure _
  | succ fuel ih =>
    unfold skipDocumentEnds
    refine stops_bind stops_peek fun token => ?_
    split
    · exact stops_bind stops_next fun _ => ih
    · exact stops_pure _

theorem stops_markedDocument (fuel : Nat) : StopsWithTokens (markedDocument fuel) := by
  have root (ends : Token → Bool) : StopsWithTokens (do
      modify fun s => { s with handles := s.handles ++ usualHandles }
      nodeUnless fuel ends true false) :=
    stops_bind (stops_modify fun _ => rfl) fun _ => (NodesStop.all fuel).nodeUnless _ _ _
  unfold markedDocument
  refine stops_bind (stops_directives _ _) fun _ => stops_bind stops_peek fun token => ?_
  dsimp only
  split
  · exact stops_bind stops_next fun _ => root _
  · exact stops_bind (stops_fail _) fun _ => root _

/-- The end of the only document. -/
theorem stops_only (fuel : Nat) (root : Node) : StopsWithTokens (do
    skipDocumentEnds fuel
    match ← peek with
    | .streamEnd => return some root
    | _ => fail .documents) := by
  refine stops_bind (stops_skipDocumentEnds _) fun _ => stops_bind stops_peek fun token => ?_
  split
  · exact stops_pure _
  · exact stops_fail _

theorem stops_document (fuel : Nat) : StopsWithTokens (document fuel) := by
  unfold document
  refine stops_bind stops_peek fun token => ?_
  dsimp only
  split
  · exact stops_pure _
  · exact stops_bind (stops_markedDocument _) (stops_only _)
  · split
    · exact stops_bind (stops_markedDocument _) (stops_only _)
    · exact stops_bind (stops_modify fun _ => rfl) fun _ =>
        stops_bind ((NodesStop.all fuel).node _ _) (stops_only _)

end Parser

theorem Node.stops_ofText? (text : Text) : StopsInText (Node.ofText? text) := by
  have known : ((Lexer.tokensOf text).2.getD (.problem .place)).IsOfText := by
    have stops := Lexer.stops_tokensOf text
    cases found : (Lexer.tokensOf text).2 with
    | none => exact .problem _
    | some stop => exact stops stop found
  unfold Node.ofText?
  split
  rename_i tokens stopped same
  rw [same] at known
  dsimp only
  split
  · rename_i stop failed
    exact .error ((Parser.stops_document _ _ known).1.allows failed)
  · exact .ok _

end TypedCatalog.Yaml
