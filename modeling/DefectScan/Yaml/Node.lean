import DefectScan.Yaml.Tag
import DefectScan.Yaml.TokenStream

/-!
# Nodes

The structure of a document: scalars, sequences and mappings, each with its tag and the place where
it begins. Nodes are numbered, and an alias is the number of the node of its anchor, which may be
a node around it. Tokens are looked at one at a time, so of several faults the first one is
reported.
-/

namespace DefectScan.Yaml

open Text (Glyph)

/-- What a node holds. -/
inductive Content where
  | scalar (text : List Glyph)
  | sequence (items : List Nat)
  | mapping (pairs : List (Nat × Nat))
  deriving DecidableEq, Repr, Inhabited

/-- How the content of a node is called in messages. -/
def Content.label : Content → String
  | .scalar _ => "scalar"
  | .sequence _ => "sequence"
  | .mapping _ => "mapping"

/-- A part of a document. -/
structure Node where
  /-- What kind of value it stands for. -/
  tag : Tag
  /-- What it holds. -/
  content : Content
  /-- Where it begins. -/
  start : Mark
  deriving Repr, Inhabited

/-- A document. -/
structure Document where
  /-- Its nodes, by number. -/
  nodes : Array Node
  /-- The number of the outermost one. -/
  root : Nat
  deriving Inhabited

/-- The state while nodes are put together. -/
structure Composer where
  /-- The tokens that are left. -/
  tokens : List Token
  /-- The fault after them. -/
  fault : Option Fault
  /-- What tag handles stand for. -/
  handles : List (List Char × List Char) := []
  /-- The nodes so far. -/
  nodes : Array Node := #[]
  /-- The nodes of the anchors. -/
  anchors : List (List Char × Nat) := []

/-- A step in putting nodes together. -/
abbrev Compose := StateT Composer (Except Fault)

namespace Compose

/-- The next token. -/
def peek : Compose Token := do
  let s ← get
  match s.tokens, s.fault with
  | t :: _, _ => pure t
  | [], some fault => throw fault
  | [], none => pure ⟨.streamEnd, {}, {}⟩

/-- Take the next token. -/
def take : Compose Token := do
  let t ← peek
  modify fun s => { s with tokens := s.tokens.drop 1 }
  pure t

/-- A fault. -/
def fail (context : Option String) (start : Option Mark) (problem : String) (mark : Mark) :
    Compose α :=
  throw (.misplaced context start problem mark)

/-- Take the next token if it has the given kind. -/
def takeIf (kind : TokenKind) : Compose (Option Token) := do
  if (← peek).kind = kind then some <$> take else pure none

/-- Whether the next token has one of the given kinds. -/
def isNext (kinds : List TokenKind) : Compose Bool := do
  pure (kinds.contains (← peek).kind)

/-- Add a node and give its number. -/
def add (node : Node) : Compose Nat := do
  let n := (← get).nodes.size
  modify fun s => { s with nodes := s.nodes.push node }
  pure n

/-- Where a node begins. -/
def startOf (n : Nat) : Compose Mark := do
  pure (((← get).nodes[n]?.map fun node => node.start).getD {})

/-- A scalar without text. -/
def emptyScalar (mark : Mark) : Compose Nat := add ⟨.null, .scalar [], mark⟩

/-! ### Properties -/

/-- What stands before the content of a node. -/
structure Properties where
  /-- The anchor. -/
  anchor : Option (List Char) := none
  /-- The handle and the rest of the tag, and where it begins. -/
  tag : Option ((Option (List Char) × List Char) × Mark) := none
  /-- Where they begin. -/
  start : Option Mark := none

/-- Read the anchor and the tag of a node, in either order. -/
def properties (count : Nat) (read : Properties) : Compose Properties :=
  match count with
  | 0 => pure read
  | n + 1 => do
    let t ← peek
    let start := read.start.getD t.start
    match t.kind, read.anchor, read.tag with
    | .anchor name, none, _ =>
      let _ ← take
      properties n { read with anchor := some name, start }
    | .tag handle suffix, _, none =>
      let _ ← take
      properties n { read with tag := some ((handle, suffix), t.start), start }
    | _, _, _ => pure read

/-- The tag that a node is given, if it is given one. -/
def givenTag (read : Properties) : Compose (Option (List Char)) := do
  match read.tag with
  | none => pure none
  | some ((none, suffix), _) => pure (some suffix)
  | some ((some handle, suffix), mark) =>
    match (← get).handles.lookup handle with
    | some lead => pure (some (lead ++ suffix))
    | none =>
      fail (some "while parsing a node") read.start
        ("found undefined tag handle " ++ String.ofList (Text.quoted handle)) mark

/-- The tag of a collection: the given one, unless it says nothing. -/
def collectionTag (default : Tag) : Option (List Char) → Tag
  | none => default
  | some text => if text = ['!'] then default else .ofText text

/-- The tag of a scalar. A scalar that is plain or has a tag that says nothing is looked at. -/
def scalarTag (text : List Glyph) (isPlain : Bool) : Option (List Char) → Tag
  | none => if isPlain then .ofPlain (Glyph.toChars text) else .str
  | some tag => if tag = ['!'] then .ofPlain (Glyph.toChars text) else .ofText tag

/-! ### Anchors -/

/-- Check that an anchor is new. -/
def checkAnchor (anchor : Option (List Char)) (start : Mark) : Compose Unit := do
  match anchor with
  | none => pure ()
  | some name =>
    match (← get).anchors.lookup name with
    | none => pure ()
    | some node =>
      fail (some ("found duplicate anchor " ++ String.ofList (Text.quoted name) ++
        "; first occurrence")) (some (← startOf node)) "second occurrence" start

/-- Let an anchor stand for a node. -/
def bindAnchor (anchor : Option (List Char)) (node : Nat) : Compose Unit :=
  match anchor with
  | none => pure ()
  | some name =>
    modify fun s => { s with anchors := (name, node) :: s.anchors.filter (·.1 != name) }

/-- The node of an alias. -/
def aliased (name : List Char) (start : Mark) : Compose Nat := do
  match (← get).anchors.lookup name with
  | some node => pure node
  | none => fail none none ("found undefined alias " ++ String.ofList (Text.quoted name)) start

/-! ### Collections -/

/-- Where a node stands. -/
inductive Position where
  /-- In a flow collection. -/
  | flow
  /-- In a block. -/
  | block
  /-- In a block mapping, where a sequence need not be indented. -/
  | mappingEntry
  deriving DecidableEq, Repr

mutual

/-- Read a node. -/
def node (fuel : Nat) (position : Position) : Compose Nat :=
  match fuel with
  | 0 => emptyScalar {}
  | fuel + 1 => do
    let t ← peek
    match t.kind with
    | .alias name =>
      let _ ← take
      aliased name t.start
    | _ =>
      let read ← properties 2 {}
      let tag ← givenTag read
      content fuel position read tag

/-- Read the content of a node after its properties. The anchor of a collection can be used inside
of it. -/
def content (fuel : Nat) (position : Position) (read : Properties) (tag : Option (List Char)) :
    Compose Nat :=
  match fuel with
  | 0 => emptyScalar {}
  | fuel + 1 => do
    let t ← peek
    let start := read.start.getD t.start
    let place (node : Node) : Compose Nat := do
      checkAnchor read.anchor start
      let n ← add node
      bindAnchor read.anchor n
      pure n
    let fill (n : Nat) (content : Content) : Compose Nat := do
      modify fun s => { s with nodes := s.nodes.modify n fun node => { node with content } }
      pure n
    let sequence (items : Compose (List Nat)) : Compose Nat := do
      let n ← place ⟨collectionTag .seq tag, .sequence [], start⟩
      fill n (.sequence (← items))
    let mapping (pairs : Compose (List (Nat × Nat))) : Compose Nat := do
      let n ← place ⟨collectionTag .map tag, .mapping [], start⟩
      fill n (.mapping (← pairs))
    match t.kind, position with
    | .blockEntry, .mappingEntry => sequence (flushItems fuel)
    | .scalar text isPlain, _ =>
      let _ ← take
      place ⟨scalarTag text isPlain tag, .scalar text, start⟩
    | .flowSequenceStart, _ =>
      sequence do
        let _ ← take
        flowItems fuel t.start true
    | .flowMappingStart, _ =>
      mapping do
        let _ ← take
        flowPairs fuel t.start true
    | .blockSequenceStart, .block | .blockSequenceStart, .mappingEntry =>
      sequence do
        let _ ← take
        blockItems fuel t.start
    | .blockMappingStart, .block | .blockMappingStart, .mappingEntry =>
      mapping do
        let _ ← take
        blockPairs fuel t.start
    | _, _ =>
      if read.anchor.isSome || tag.isSome then
        place ⟨scalarTag [] true tag, .scalar [], start⟩
      else
        let place := if position = .flow then "flow" else "block"
        fail (some ("while parsing a " ++ place ++ " node")) (some start)
          ("expected the node content, but found " ++ t.shown) t.start

/-- Read the items of a block sequence. -/
def blockItems (fuel : Nat) (start : Mark) : Compose (List Nat) :=
  match fuel with
  | 0 => pure []
  | fuel + 1 => do
    match ← takeIf .blockEntry with
    | some t =>
      let item ←
        if ← isNext [.blockEntry, .blockEnd] then emptyScalar t.stop else node fuel .block
      pure (item :: (← blockItems fuel start))
    | none =>
      let t ← peek
      if t.kind = .blockEnd then
        let _ ← take
        pure []
      else
        fail (some "while parsing a block collection") (some start)
          ("expected <block end>, but found " ++ t.shown) t.start

/-- Read the items of a sequence that is not indented further than its key. -/
def flushItems (fuel : Nat) : Compose (List Nat) :=
  match fuel with
  | 0 => pure []
  | fuel + 1 => do
    match ← takeIf .blockEntry with
    | some t =>
      let item ←
        if ← isNext [.blockEntry, .key, .value, .blockEnd] then emptyScalar t.stop
        else node fuel .block
      pure (item :: (← flushItems fuel))
    | none => pure []

/-- Read the pairs of a block mapping. -/
def blockPairs (fuel : Nat) (start : Mark) : Compose (List (Nat × Nat)) :=
  match fuel with
  | 0 => pure []
  | fuel + 1 => do
    match ← takeIf .key with
    | some t =>
      let key ←
        if ← isNext [.key, .value, .blockEnd] then emptyScalar t.stop
        else node fuel .mappingEntry
      let value ←
        match ← takeIf .value with
        | some t =>
          if ← isNext [.key, .value, .blockEnd] then emptyScalar t.stop
          else node fuel .mappingEntry
        | none => emptyScalar (← peek).start
      pure ((key, value) :: (← blockPairs fuel start))
    | none =>
      let t ← peek
      if t.kind = .blockEnd then
        let _ ← take
        pure []
      else
        fail (some "while parsing a block mapping") (some start)
          ("expected <block end>, but found " ++ t.shown) t.start

/-- Read the items of a flow sequence. A pair among them is a mapping of its own. -/
def flowItems (fuel : Nat) (start : Mark) (isFirst : Bool) : Compose (List Nat) :=
  match fuel with
  | 0 => pure []
  | fuel + 1 => do
    match ← takeIf .flowSequenceEnd with
    | some _ => pure []
    | none =>
      if !isFirst && (← takeIf .flowEntry).isNone then
        let t ← peek
        fail (some "while parsing a flow sequence") (some start)
          ("expected ',' or ']', but got " ++ t.shown) t.start
      else
        match ← takeIf .key with
        | some t =>
          let key ←
            if ← isNext [.value, .flowEntry, .flowSequenceEnd] then emptyScalar t.stop
            else node fuel .flow
          let value ← flowValue fuel [.flowEntry, .flowSequenceEnd]
          let pair ← add ⟨.map, .mapping [(key, value)], t.start⟩
          pure (pair :: (← flowItems fuel start false))
        | none =>
          match ← takeIf .flowSequenceEnd with
          | some _ => pure []
          | none =>
            let item ← node fuel .flow
            pure (item :: (← flowItems fuel start false))

/-- Read the value of a pair in a flow collection, empty in front of the given tokens. -/
def flowValue (fuel : Nat) (ends : List TokenKind) : Compose Nat :=
  match fuel with
  | 0 => emptyScalar {}
  | fuel + 1 => do
    match ← takeIf .value with
    | some t => if ← isNext ends then emptyScalar t.stop else node fuel .flow
    | none => emptyScalar (← peek).start

/-- Read the pairs of a flow mapping. An item without a colon is a key without a value. -/
def flowPairs (fuel : Nat) (start : Mark) (isFirst : Bool) : Compose (List (Nat × Nat)) :=
  match fuel with
  | 0 => pure []
  | fuel + 1 => do
    match ← takeIf .flowMappingEnd with
    | some _ => pure []
    | none =>
      if !isFirst && (← takeIf .flowEntry).isNone then
        let t ← peek
        fail (some "while parsing a flow mapping") (some start)
          ("expected ',' or '\x7d', but got " ++ t.shown) t.start
      else
        match ← takeIf .key with
        | some t =>
          let key ←
            if ← isNext [.value, .flowEntry, .flowMappingEnd] then emptyScalar t.stop
            else node fuel .flow
          let value ← flowValue fuel [.flowEntry, .flowMappingEnd]
          pure ((key, value) :: (← flowPairs fuel start false))
        | none =>
          match ← takeIf .flowMappingEnd with
          | some _ => pure []
          | none =>
            let key ← node fuel .flow
            let value ← emptyScalar (← peek).start
            pure ((key, value) :: (← flowPairs fuel start false))

end

/-! ### Documents -/

/-- The tag handles that need not be declared. -/
def standardHandles : List (List Char × List Char) :=
  [(['!'], ['!']), (['!', '!'], Tag.common.toList)]

/-- Read the directives before a document: whether a version was given, and the handles. -/
def directives (fuel : Nat) (hasVersion : Bool) (handles : List (List Char × List Char)) :
    Compose Unit :=
  match fuel with
  | 0 => pure ()
  | fuel + 1 => do
    let t ← peek
    match t.kind with
    | .directive d =>
      let _ ← take
      match d with
      | .version major _ =>
        if hasVersion then fail none none "found duplicate YAML directive" t.start
        else if major ≠ 1 then
          fail none none "found incompatible YAML document (version 1.* is required)" t.start
        else directives fuel true handles
      | .handle handle lead =>
        if (handles.lookup handle).isSome then
          fail none none ("duplicate tag handle " ++ String.ofList (Text.quoted handle)) t.start
        else directives fuel hasVersion (handles ++ [(handle, lead)])
      | .other => directives fuel hasVersion handles
    | _ => modify fun s => { s with handles := handles ++ standardHandles }

/-- Skip the signs that end a document. -/
def skipEnds (fuel : Nat) : Compose Unit :=
  match fuel with
  | 0 => pure ()
  | fuel + 1 => do
    match ← takeIf .documentEnd with
    | some _ => skipEnds fuel
    | none => pure ()

/-- Read the beginning of a document: where it is, none at the end of the text. -/
def documentStart (fuel : Nat) : Compose (Option Mark) := do
  skipEnds fuel
  let t ← peek
  if t.kind = .streamEnd then pure none
  else
    directives fuel false []
    match ← takeIf .documentStart with
    | some _ => pure (some t.start)
    | none =>
      let t ← peek
      fail none none ("expected '<document start>', but found " ++ t.shown) t.start

/-- Whether a document has ended before its content. -/
def isEmptyDocument : TokenKind → Bool
  | .directive _ | .documentStart | .documentEnd | .streamEnd => true
  | _ => false

/-- Read the first document, none if there is none. -/
def firstDocument (fuel : Nat) : Compose (Option Nat) := do
  match (← peek).kind with
  | .directive _ | .documentStart | .streamEnd =>
    match ← documentStart fuel with
    | none => pure none
    | some _ =>
      let t ← peek
      if isEmptyDocument t.kind then some <$> emptyScalar t.start
      else some <$> node fuel .block
  | _ =>
    modify fun s => { s with handles := standardHandles }
    some <$> node fuel .block

/-- Read the only document of a text, none if it has none. -/
def onlyDocument (fuel : Nat) : Compose (Option Nat) := do
  match ← firstDocument fuel with
  | none => pure none
  | some root =>
    let _ ← takeIf .documentEnd
    match ← documentStart fuel with
    | none => pure (some root)
    | some mark =>
      fail (some "expected a single document in the stream") (some (← startOf root))
        "but found another document" mark

end Compose

/-- How deeply collections may lie within each other. -/
def maxDepth : Nat := 488

/-- The tokens before the first collection that lies too deeply within others, and whether there is
one. -/
def withinDepth : Nat → List Token → List Token × Bool
  | _, [] => ([], false)
  | depth, t :: ts =>
    match t.kind with
    | .blockSequenceStart | .blockMappingStart | .flowSequenceStart | .flowMappingStart =>
      if maxDepth ≤ depth then ([], true)
      else
        let (before, isCut) := withinDepth (depth + 1) ts
        (t :: before, isCut)
    | .blockEnd | .flowSequenceEnd | .flowMappingEnd =>
      let (before, isCut) := withinDepth (depth - 1) ts
      (t :: before, isCut)
    | _ =>
      let (before, isCut) := withinDepth depth ts
      (t :: before, isCut)

/-- The only document of a text, none if it has none. -/
def Document.ofText (text : List Char) : Except Fault (Option Document) :=
  let stream := TokenStream.ofText text
  let fuel := 4 * stream.tokens.length + 4
  let (tokens, isCut) := withinDepth 0 stream.tokens
  let fault := if isCut then some .tooDeep else stream.fault
  match (Compose.onlyDocument fuel).run { tokens, fault } with
  | .error fault => .error fault
  | .ok (root, s) => .ok (root.map fun root => ⟨s.nodes, root⟩)

end DefectScan.Yaml
