import TypedCatalog.Yaml.Lexer
import TypedCatalog.Yaml.Tag

/-! YAML documents as trees of nodes. A reference is the node that it names; inside that node itself
it is an empty collection of the same kind. -/
namespace TypedCatalog.Yaml

inductive Node where
  | scalar (tag : Tag) (text : Text)
  | sequence (tag : Tag) (items : List Node)
  | mapping (tag : Tag) (entries : List (Node × Node))

namespace Node

mutual

def depth : Node → Nat
  | scalar .. => 0
  | sequence _ items => depthOfItems items + 1
  | mapping _ entries => depthOfEntries entries + 1

def depthOfItems : List Node → Nat
  | [] => 0
  | item :: items => max (depth item) (depthOfItems items)

def depthOfEntries : List (Node × Node) → Nat
  | [] => 0
  | (key, value) :: entries => max (max (depth key) (depth value)) (depthOfEntries entries)

end

def empty : Node := scalar (Tag.ofPlain []) []

end Node

/-- The tokens that are left, and what the document has named so far. -/
structure Parse where
  tokens : List Token
  /-- What stopped the reader of tokens behind the last one. -/
  stop : Stop
  handles : List (Text × Text) := []
  anchors : List (Text × Node) := []

abbrev Parser := StateT Parse (Except Stop)

namespace Parser

def fail {α : Type} (problem : YamlProblem) : Parser α := fun _ => .error (.problem problem)

def peek : Parser Token := fun s =>
  match s.tokens with
  | [] => .error s.stop
  | token :: _ => .ok (token, s)

def next : Parser Unit := fun s => .ok ((), { s with tokens := s.tokens.drop 1 })

/-- What stands before a node: an anchor and a tag, in either order. -/
def properties : Parser (Option Text × Option TagName) := do
  match ← peek with
  | .anchor name =>
    next
    match ← peek with
    | .tag tag => next; return (some name, some tag)
    | _ => return (some name, none)
  | .tag tag =>
    next
    match ← peek with
    | .anchor name => next; return (some name, some tag)
    | _ => return (none, some tag)
  | _ => return (none, none)

/-- The full name of a tag. -/
def fullName (tag : TagName) : Parser Text := do
  match tag.handle with
  | none => return tag.suffix
  | some handle =>
    match (← get).handles.find? fun entry => entry.1 == handle with
    | some (_, start) => return start ++ tag.suffix
    | none => fail .tag

/-- The tag of a collection; one without a name of its own has the usual one. -/
def collectionTag (usual : Tag) : Option Text → Tag
  | none | some ['!'] => usual
  | some name => Tag.ofName name

def scalarTag (isPlain : Bool) (text : Text) : Option Text → Tag
  | none => if isPlain then Tag.ofPlain text else Tag.text
  | some ['!'] => Tag.ofPlain text
  | some name => Tag.ofName name

/-- Names a node. No two nodes have one name. -/
def declare (anchor : Option Text) (node : Node) : Parser Unit := do
  match anchor with
  | none => return
  | some name =>
    if (← get).anchors.any (·.1 == name) then fail .anchor
    else modify fun s => { s with anchors := (name, node) :: s.anchors }

/-- Puts a node in place of the one that had its name while it was read. -/
def complete (anchor : Option Text) (node : Node) : Parser Node := do
  match anchor with
  | none => return node
  | some name =>
    modify fun s => { s with anchors := (name, node) :: s.anchors }
    return node

def referred (name : Text) : Parser Node := do
  match (← get).anchors.find? fun entry => entry.1 == name with
  | some (_, node) => return node
  | none => fail .anchor

def endsBlockItem : Token → Bool
  | .blockEntry | .blockEnd => true
  | _ => false

def endsBlockEntry : Token → Bool
  | .key | .value | .blockEnd => true
  | _ => false

def endsFlowItem : Token → Bool
  | .flowEntry | .flowSequenceEnd => true
  | _ => false

def endsFlowEntry : Token → Bool
  | .flowEntry | .flowMappingEnd => true
  | _ => false

def isValue : Token → Bool
  | .value => true
  | _ => false

mutual

/-- A node; `isIndentless` allows a sequence at the column of the mapping around it. -/
def node : (fuel : Nat) → (isBlock isIndentless : Bool) → Parser Node
  | 0, _, _ => fail .place
  | fuel + 1, isBlock, isIndentless => do
    match ← peek with
    | .reference name => next; referred name
    | _ =>
      let (anchor, tag) ← properties
      let tag ← tag.mapM fullName
      let sequence (read : Parser (List Node)) : Parser Node := do
        let tag := collectionTag .sequence tag
        declare anchor (.sequence tag [])
        complete anchor (.sequence tag (← read))
      let mapping (read : Parser (List (Node × Node))) : Parser Node := do
        let tag := collectionTag .mapping tag
        declare anchor (.mapping tag [])
        complete anchor (.mapping tag (← read))
      let scalar (isPlain : Bool) (text : Text) : Parser Node := do
        let node := Node.scalar (scalarTag isPlain text tag) text
        declare anchor node
        return node
      let orEmpty : Parser Node :=
        if anchor.isSome || tag.isSome then scalar (tag.isNone) [] else fail .place
      match ← peek with
      | .blockEntry => if isIndentless then sequence (indentlessItems fuel) else orEmpty
      | .scalar text isPlain => next; scalar isPlain text
      | .flowSequenceStart => next; sequence (flowItems fuel true)
      | .flowMappingStart => next; mapping (flowEntries fuel true)
      | .blockSequenceStart => if isBlock then next; sequence (blockItems fuel) else orEmpty
      | .blockMappingStart => if isBlock then next; mapping (blockEntries fuel) else orEmpty
      | _ => orEmpty

/-- A node, or an empty one where a token ends it at once. -/
def nodeUnless : (fuel : Nat) → (ends : Token → Bool) → (isBlock isIndentless : Bool) → Parser Node
  | 0, _, _, _ => fail .place
  | fuel + 1, ends, isBlock, isIndentless => do
    if ends (← peek) then return .empty else node fuel isBlock isIndentless

/-- What follows a colon, or an empty node without one. -/
def valueUnless : (fuel : Nat) → (ends : Token → Bool) → (isBlock : Bool) → Parser Node
  | 0, _, _ => fail .place
  | fuel + 1, ends, isBlock => do
    match ← peek with
    | .value => next; nodeUnless fuel ends isBlock isBlock
    | _ => return .empty

def blockItems : (fuel : Nat) → Parser (List Node)
  | 0 => fail .place
  | fuel + 1 => do
    match ← peek with
    | .blockEntry =>
      next
      let item ← nodeUnless fuel endsBlockItem true false
      return item :: (← blockItems fuel)
    | .blockEnd => next; return []
    | _ => fail .place

def indentlessItems : (fuel : Nat) → Parser (List Node)
  | 0 => fail .place
  | fuel + 1 => do
    match ← peek with
    | .blockEntry =>
      next
      let ends := fun token => endsBlockItem token || endsBlockEntry token
      let item ← nodeUnless fuel ends true false
      return item :: (← indentlessItems fuel)
    | _ => return []

def blockEntries : (fuel : Nat) → Parser (List (Node × Node))
  | 0 => fail .place
  | fuel + 1 => do
    match ← peek with
    | .key =>
      next
      let key ← nodeUnless fuel endsBlockEntry true true
      let value ← valueUnless fuel endsBlockEntry true
      return (key, value) :: (← blockEntries fuel)
    | .blockEnd => next; return []
    | _ => fail .place

def flowItems : (fuel : Nat) → (isFirst : Bool) → Parser (List Node)
  | 0, _ => fail .place
  | fuel + 1, isFirst => do
    match ← peek with
    | .flowSequenceEnd => next; return []
    | .flowEntry => if isFirst then fail .place else next
    | _ => if isFirst then pure () else fail .place
    match ← peek with
    | .flowSequenceEnd => next; return []
    | .key =>
      next
      let key ← nodeUnless fuel (fun token => isValue token || endsFlowItem token) false false
      let value ← valueUnless fuel endsFlowItem false
      return .mapping .mapping [(key, value)] :: (← flowItems fuel false)
    | _ =>
      let item ← node fuel false false
      return item :: (← flowItems fuel false)

def flowEntries : (fuel : Nat) → (isFirst : Bool) → Parser (List (Node × Node))
  | 0, _ => fail .place
  | fuel + 1, isFirst => do
    match ← peek with
    | .flowMappingEnd => next; return []
    | .flowEntry => if isFirst then fail .place else next
    | _ => if isFirst then pure () else fail .place
    match ← peek with
    | .flowMappingEnd => next; return []
    | .key =>
      next
      let key ← nodeUnless fuel (fun token => isValue token || endsFlowEntry token) false false
      let value ← valueUnless fuel endsFlowEntry false
      return (key, value) :: (← flowEntries fuel false)
    | _ =>
      let key ← node fuel false false
      return (key, .empty) :: (← flowEntries fuel false)

end

def usualHandles : List (Text × Text) := [(['!'], ['!']), (['!', '!'], Tag.space)]

/-- Directives before a document. Each handle, and the version, is given at most once. -/
def directives : (fuel : Nat) → (hasVersion : Bool) → Parser Unit
  | 0, _ => fail .directive
  | fuel + 1, hasVersion => do
    match ← peek with
    | .version major =>
      if hasVersion || major ≠ 1 then fail .directive
      next
      directives fuel true
    | .shorthand handle start =>
      if (← get).handles.any (·.1 == handle) then fail .directive
      next
      modify fun s => { s with handles := (handle, start) :: s.handles }
      directives fuel hasVersion
    | .otherDirective => next; directives fuel hasVersion
    | _ => return

def skipDocumentEnds : (fuel : Nat) → Parser Unit
  | 0 => return
  | fuel + 1 => do
    match ← peek with
    | .documentEnd => next; skipDocumentEnds fuel
    | _ => return

def isDirective : Token → Bool
  | .version _ | .shorthand .. | .otherDirective => true
  | _ => false

/-- A document that starts with a mark or with directives. -/
def markedDocument (fuel : Nat) : Parser Node := do
  directives fuel false
  match ← peek with
  | .documentStart => next
  | _ => fail .documents
  modify fun s => { s with handles := s.handles ++ usualHandles }
  let ends := fun
    | .documentStart | .documentEnd | .streamEnd => true
    | token => isDirective token
  nodeUnless fuel ends true false

/-- The only document of a text, none if there is no text. -/
def document (fuel : Nat) : Parser (Option Node) := do
  let first ← peek
  let root ← match first with
    | .streamEnd => return none
    | .documentStart => markedDocument fuel
    | token =>
      if isDirective token then markedDocument fuel
      else do
        modify fun s => { s with handles := usualHandles }
        node fuel true false
  skipDocumentEnds fuel
  match ← peek with
  | .streamEnd => return some root
  | _ => fail .documents

end Parser

/-- The document that a text holds. -/
def Node.ofText? (text : Text) : Step (Option Node) :=
  let (tokens, stopped) := Lexer.tokensOf text
  let parse : Parse := { tokens, stop := stopped.getD (.problem .place) }
  match Parser.document (4 * tokens.length + 8) parse with
  | .error stop => .error stop
  | .ok (node, _) => .ok node

end TypedCatalog.Yaml
