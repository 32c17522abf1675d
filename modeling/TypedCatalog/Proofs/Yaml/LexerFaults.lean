import TypedCatalog.Proofs.Fault
import TypedCatalog.Yaml.Lexer

/-! The lexer stops with `Stop.IsOfText` only: a syntax problem, or a fault of a value. -/
namespace TypedCatalog.Yaml

/-- A syntax problem, or a fault of a scalar value. -/
inductive Stop.IsOfText : Stop → Prop where
  | problem (problem : YamlProblem) : IsOfText (.problem problem)
  | fault {fault : Fault} : fault.IsOfValue → IsOfText (.fault fault)

abbrev StopsInText {α : Type} (step : Step α) : Prop := FailsOnly Stop.IsOfText step

theorem stopsInText_stop {α : Type} (problem : YamlProblem) :
    StopsInText (stop problem : Step α) := .error (.problem problem)

/-- A check before the rest of a step. -/
theorem stopsInText_check {α : Type} {isWrong : Prop} [Decidable isWrong] {problem : YamlProblem}
    {rest : Unit → Step α} (each : StopsInText (rest ())) :
    StopsInText (if isWrong then stop problem >>= rest else rest ()) :=
  .check (stopsInText_stop problem) each

/-- A result unless a condition holds. -/
theorem stopsInText_unless {α : Type} {isWrong : Prop} [Decidable isWrong] {problem : YamlProblem}
    {value : α} : StopsInText (if isWrong then stop problem else .ok value : Step α) :=
  .ite (stopsInText_stop problem) (.ok value)

/-- A result if a condition holds. -/
theorem stopsInText_if {α : Type} {isRight : Prop} [Decidable isRight] {problem : YamlProblem}
    {value : α} : StopsInText (if isRight then .ok value else stop problem : Step α) :=
  .ite (.ok value) (stopsInText_stop problem)

namespace Scalar

theorem stops_codeChar (code : Nat) : StopsInText (codeChar code) := by
  unfold codeChar
  split
  · exact .error (.fault (.misuse .overflow))
  · split
    · exact .error (.fault (.content .codePoint))
    · exact .ok _

theorem stops_lineEnds (fuel : Nat) (c : Cursor) : StopsInText (lineEnds fuel c) := by
  induction fuel generalizing c with
  | zero => exact .ok _
  | succ fuel ih =>
    unfold lineEnds
    split
    · exact stopsInText_stop _
    · dsimp only
      split
      · exact .ok _
      · exact (ih _).bind fun _ _ => .ok _

theorem stops_quotedSpace (fuel : Nat) (c : Cursor) : StopsInText (quotedSpace fuel c) := by
  unfold quotedSpace
  split
  split
  · exact (stops_lineEnds _ _).bind fun _ _ => .ok _
  · exact stopsInText_unless

theorem stops_escaped (fuel : Nat) (c : Cursor) : StopsInText (escaped fuel c) := by
  unfold escaped
  split
  · exact stopsInText_stop _
  · split
    · exact .ok _
    · dsimp only
      split
      · exact .ite (stopsInText_stop _) ((stops_codeChar _).bind fun _ _ => .ok _)
      · exact stopsInText_stop _
    · exact .ite (stops_lineEnds _ _) (stopsInText_stop _)

/-- Text in front of the rest of a quoted scalar. -/
theorem stops_front {α : Type} {rest : Step (Text × α)} (front : Text) (stops : StopsInText rest) :
    StopsInText (do
      let (text, after) ← rest
      return (front ++ text, after)) :=
  stops.bind fun _ _ => .ok _

theorem stops_quoted (mark : Char) (fuel : Nat) (c : Cursor) :
    StopsInText (quoted mark fuel c) := by
  induction fuel generalizing c with
  | zero => exact stopsInText_stop _
  | succ fuel ih =>
    unfold quoted
    split
    split
    · exact stopsInText_stop _
    · split
      · split
        · exact (ih _).bind fun _ _ => .ok _
        · exact .ok _
      · dsimp only
        split
        · exact (stops_escaped _ _).bind fun _ _ => stops_front _ (ih _)
        · split
          · exact stops_front _ (ih _)
          · exact (stops_quotedSpace _ _).bind fun _ _ => stops_front _ (ih _)

theorem stops_increment? (c : Cursor) : StopsInText (increment? c) := by
  unfold increment?
  split
  · exact .ite stopsInText_unless (.ok _)
  · exact .ok _

theorem stops_indicators (c : Cursor) : StopsInText (indicators c) := by
  have ends (found : Chomping × Option Nat × Cursor) : StopsInText (
      if endsPart found.2.2.peek then pure found else stop .token) := stopsInText_if
  unfold indicators
  dsimp only
  split
  · exact (stops_increment? _).bind fun _ _ => ends (_, _, _)
  · refine (stops_increment? _).bind ?_
    rintro ⟨increment, c⟩ -
    cases increment with
    | none => exact ends (_, _, _)
    | some n =>
      dsimp only
      split
      · exact ends (_, _, _)
      · exact ends (_, _, _)

theorem stops_restOfLine (c : Cursor) : StopsInText (restOfLine c) := stopsInText_if

theorem stops_block (isFolded : Bool) (indent : Nat) (c : Cursor) :
    StopsInText (block isFolded indent c) := by
  unfold block
  exact (stops_indicators c).bind fun _ _ => (stops_restOfLine _).bind fun _ _ => .ok _

end Scalar

namespace Lexer

theorem stops_escapedBytes (fuel : Nat) (c : Cursor) : StopsInText (escapedBytes fuel c) := by
  induction fuel generalizing c with
  | zero => exact .ok _
  | succ fuel ih =>
    unfold escapedBytes
    split
    · exact .ok _
    · split
      · split
        · exact stopsInText_stop _
        · exact (ih _).bind fun _ _ => .ok _
      · exact stopsInText_stop _

theorem stops_tagChars (fuel : Nat) (c : Cursor) : StopsInText (tagChars fuel c) := by
  induction fuel generalizing c with
  | zero => exact .ok _
  | succ fuel ih =>
    unfold tagChars
    split
    · refine (stops_escapedBytes _ _).bind ?_
      rintro ⟨bytes, c⟩ -
      dsimp only
      split
      · exact stopsInText_stop _
      · exact (ih _).bind fun _ _ => .ok _
    · split
      · exact (ih _).bind fun _ _ => .ok _
      · exact .ok _
    · exact .ok _

theorem stops_tagPart (c : Cursor) : StopsInText (tagPart c) :=
  .ite (stops_tagChars _ _) (stopsInText_stop _)

theorem stops_tagHandle (c : Cursor) : StopsInText (tagHandle c) :=
  .ite (stopsInText_stop _) <| .ite (.ok _) stopsInText_if

theorem stops_tagName (c : Cursor) : StopsInText (tagName c) := by
  have ends (found : TagName × Cursor) : StopsInText (
      if endsPart found.2.peek then pure found else stop .token) := stopsInText_if
  unfold tagName
  dsimp only
  split
  · refine (stops_tagPart _).bind ?_
    rintro ⟨suffix, c⟩ -
    dsimp only
    split
    · exact ends (_, _)
    · exact stopsInText_stop _
  · split
    · exact ends (_, _)
    · split
      · exact (stops_tagHandle _).bind fun _ _ => (stops_tagPart _).bind fun _ _ => ends (_, _)
      · exact (stops_tagPart _).bind fun _ _ => ends (_, _)

theorem stops_anchorName (c : Cursor) : StopsInText (anchorName c) := stopsInText_unless

theorem stops_directiveNumber (c : Cursor) : StopsInText (directiveNumber c) := stopsInText_unless

theorem stops_directive (c : Cursor) : StopsInText (directive c) := by
  have ends (found : Token × Cursor) : StopsInText (do
      let c ← Scalar.restOfLine found.2
      return (found.1, c)) := (Scalar.stops_restOfLine _).bind fun _ _ => .ok _
  unfold directive
  split
  refine stopsInText_check ?_
  split
  · refine (stops_directiveNumber _).bind fun _ _ => stopsInText_check ?_
    refine (stops_directiveNumber _).bind fun _ _ => stopsInText_check ?_
    exact ends (_, _)
  · split
    · refine (stops_tagHandle _).bind fun _ _ => stopsInText_check ?_
      refine (stops_tagPart _).bind fun _ _ => stopsInText_check ?_
      exact ends (_, _)
    · exact ends (_, _)

theorem stops_dropStale (s : Lexer) : StopsInText s.dropStale := stopsInText_unless

theorem stops_dropCandidate (s : Lexer) : StopsInText s.dropCandidate := stopsInText_unless

theorem stops_addCandidate (s : Lexer) : StopsInText s.addCandidate :=
  .ite (.ok _) ((stops_dropCandidate _).bind fun _ _ => .ok _)

theorem stops_readEnd (s : Lexer) : StopsInText s.readEnd :=
  (stops_dropCandidate _).bind fun _ _ => .ok _

theorem stops_readDirective (s : Lexer) : StopsInText s.readDirective :=
  (stops_dropCandidate _).bind fun _ _ => (stops_directive _).bind fun _ _ => .ok _

theorem stops_readMark (token : Token) (s : Lexer) : StopsInText (s.readMark token) :=
  (stops_dropCandidate _).bind fun _ _ => .ok _

theorem stops_openFlow (token : Token) (s : Lexer) : StopsInText (s.openFlow token) :=
  (stops_addCandidate _).bind fun _ _ => .ok _

theorem stops_closeFlow (token : Token) (s : Lexer) : StopsInText (s.closeFlow token) :=
  (stops_dropCandidate _).bind fun _ _ => stopsInText_unless

theorem stops_readFlowEntry (s : Lexer) : StopsInText s.readFlowEntry :=
  (stops_dropCandidate _).bind fun _ _ => .ok _

theorem stops_readBlockEntry (s : Lexer) : StopsInText s.readBlockEntry := by
  unfold readBlockEntry
  exact stopsInText_check ((stops_dropCandidate _).bind fun _ _ => .ok _)

theorem stops_readKey (s : Lexer) : StopsInText s.readKey := by
  unfold readKey
  exact stopsInText_check ((stops_dropCandidate _).bind fun _ _ => .ok _)

theorem stops_readValue (s : Lexer) : StopsInText s.readValue := by
  unfold readValue
  split
  · exact .ok _
  · exact stopsInText_check ((stops_dropCandidate _).bind fun _ _ => .ok _)

theorem stops_readReference (s : Lexer) : StopsInText s.readReference :=
  (stops_addCandidate _).bind fun _ _ => (stops_anchorName _).bind fun _ _ => .ok _

theorem stops_readAnchor (s : Lexer) : StopsInText s.readAnchor :=
  (stops_addCandidate _).bind fun _ _ => (stops_anchorName _).bind fun _ _ => .ok _

theorem stops_readTag (s : Lexer) : StopsInText s.readTag :=
  (stops_addCandidate _).bind fun _ _ => (stops_tagName _).bind fun _ _ => .ok _

theorem stops_readBlock (isFolded : Bool) (s : Lexer) : StopsInText (s.readBlock isFolded) :=
  (stops_dropCandidate _).bind fun _ _ => (Scalar.stops_block _ _ _).bind fun _ _ => .ok _

theorem stops_readQuoted (mark : Char) (s : Lexer) : StopsInText (s.readQuoted mark) :=
  (stops_addCandidate _).bind fun _ _ => (Scalar.stops_quoted _ _ _).bind fun _ _ => .ok _

theorem stops_readPlain (s : Lexer) : StopsInText s.readPlain :=
  (stops_addCandidate _).bind fun _ _ => .ok _

theorem stops_readToken (s : Lexer) : StopsInText s.readToken := by
  unfold readToken
  dsimp only
  split
  · exact stops_readEnd s
  · exact .ite (stops_readDirective s) <| .ite (stops_readMark _ s) <| .ite (stops_readMark _ s) <|
      .ite (stops_openFlow _ s) <| .ite (stops_openFlow _ s) <| .ite (stops_closeFlow _ s) <|
      .ite (stops_closeFlow _ s) <| .ite (stops_readFlowEntry s) <| .ite (stops_readBlockEntry s) <|
      .ite (stops_readKey s) <| .ite (stops_readValue s) <| .ite (stops_readReference s) <|
      .ite (stops_readAnchor s) <| .ite (stops_readTag s) <| .ite (stops_readBlock _ s) <|
      .ite (stops_readBlock _ s) <| .ite (stops_readQuoted _ s) <| .ite (stops_readPlain s) <|
      stopsInText_stop _

theorem stops_step (s : Lexer) : StopsInText s.step :=
  (stops_dropStale _).bind fun _ _ => stops_readToken _

theorem stops_run (fuel : Nat) (s : Lexer) : ∀ stop ∈ (run fuel s).2, stop.IsOfText := by
  induction fuel generalizing s with
  | zero =>
    intro stop member
    cases member
    exact .problem _
  | succ fuel ih =>
    unfold run
    intro stop member
    split at member
    · rename_i cause stopped
      cases member
      exact (stops_step s).allows stopped
    · split at member
      · cases member
      · exact ih _ stop member

theorem stops_tokensOf (text : Text) : ∀ stop ∈ (tokensOf text).2, stop.IsOfText := by
  unfold tokensOf
  split
  · exact stops_run _ _
  · intro stop member
    cases member
    exact .problem _

end Lexer

end TypedCatalog.Yaml
