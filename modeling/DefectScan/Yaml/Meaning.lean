import DefectScan.Text.Base64
import DefectScan.Text.LowerCase
import DefectScan.Yaml.Node
import DefectScan.Yaml.SetOrder

/-!
# Meaning of documents

The value that a document stands for. The tag of a scalar says how its text is read; a mapping takes
in the pairs of the mappings that it merges. A node has one value, wherever it occurs. Collections
are there before their members: they are filled one after the other in the order in which they were
met, so of several faults the outermost is reported, and of those the first.
-/

namespace DefectScan.Yaml

open Text (Glyph)

/-- Why a text stands for no value. -/
inductive ReadError where
  /-- The text is malformed. -/
  | malformed (fault : Fault)
  /-- A scalar cannot be read as its tag says. -/
  | invalid (message : String)
  /-- A scalar that should be a truth value is no word for one. -/
  | noTruthWord
  /-- A scalar that should be a number is empty. -/
  | noDigits
  /-- A scalar that should be a date is none. -/
  | noTimestamp
  /-- A mapping with a default value stands where a date should be. -/
  | mappingForTimestamp
  /-- The default value of a mapping is that mapping. -/
  | endless
  deriving DecidableEq, Repr, Inhabited

/-- A fault at a node. -/
def faultHere (problem : String) (mark : Mark) : ReadError :=
  .malformed (.misplaced none none problem mark)

/-! ### Scalars -/

/-- The sum of parts, the last of them counting once and each before it sixty times as much. -/
def sixtieths (parts : List Int) : Int := parts.foldl (fun n d => n * 60 + d) 0

/-- The parts of a text between colons. -/
def colonParts (s : List Glyph) : List (List Glyph) :=
  s.foldr (fun c parts =>
    match c, parts with
    | .char ':', _ => [] :: parts
    | c, p :: ps => (c :: p) :: ps
    | c, [] => [[c]]) [[]]

/-- A number without its sign: whether it is negative, and what follows the sign. -/
def splitSign : List Glyph → Bool × List Glyph
  | .char '-' :: s => (true, s)
  | .char '+' :: s => (false, s)
  | s => (false, s)

/-- The integer of a scalar. Underscores do not count. -/
def integerOf (text : List Glyph) : Except ReadError Int := do
  let text := text.filter (· ≠ .char '_')
  if text.isEmpty then throw .noDigits
  let (isNegative, digits) := splitSign text
  let read (base : Nat) (s : List Glyph) := (Number.readInteger base s).mapError .invalid
  let n ←
    match digits with
    | [.char '0'] => pure 0
    | .char '0' :: .char 'b' :: s => read 2 s
    | .char '0' :: .char 'x' :: s => read 16 s
    | .char '0' :: _ => read 8 digits
    | [] => throw .noDigits
    | _ =>
      if digits.contains (.char ':') then do
        pure (sixtieths (← (colonParts digits).mapM (read 10)))
      else read 10 digits
  pure (if isNegative then -n else n)

/-- A text in small letters. A half of a pair has no letters. -/
def lowerGlyphs (text : List Glyph) : List Glyph :=
  if text.any fun g => g matches .half _ then
    text.flatMap fun
      | .char c => Glyph.ofChars (Text.lower [c])
      | half => [half]
  else Glyph.ofChars (Text.lower (Glyph.toChars text))

/-- The floating-point number of a scalar. Underscores and case do not count. -/
def realOf (text : List Glyph) : Except ReadError Number.Binary64 := do
  let text := lowerGlyphs (text.filter (· ≠ .char '_'))
  if text.isEmpty then throw .noDigits
  let (isNegative, digits) := splitSign text
  let read (s : List Glyph) := (Number.readReal s).mapError ReadError.invalid
  let x ←
    if digits = Glyph.ofChars ".inf".toList then pure (.infinite false)
    else if digits = Glyph.ofChars ".nan".toList then pure .notANumber
    else if digits.contains (.char ':') then do
      let parts ← (colonParts digits).mapM read
      let sum := parts.reverse.foldl (fun (acc : Number.Binary64 × Nat) d =>
        (acc.1.add (d.mulNat acc.2), acc.2 * 60)) (.ofRatio false 0 1, 1)
      pure sum.1
    else read digits
  pure (if isNegative then x.neg else x)

/-- Whether a scalar is the word for what is no number. -/
def isNoNumberWord (text : List Glyph) : Bool :=
  (splitSign (lowerGlyphs (text.filter (· ≠ .char '_')))).2 = Glyph.ofChars ".nan".toList

/-- The truth value of a scalar. -/
def truthOf (text : List Glyph) : Except ReadError Bool :=
  match Tag.truthWords.find? fun w => Glyph.ofChars w.1.toList = lowerGlyphs text with
  | some w => .ok w.2
  | none => .error .noTruthWord

/-- The date or moment of a scalar. -/
def timestampOf (text : List Glyph) : Except ReadError Value :=
  match TimestampText.read? (Tag.withoutBreak (Glyph.toChars text)) with
  | none => .error .noTimestamp
  | some t =>
    match t.time with
    | none => ((Date.ofParts t.date.1 t.date.2.1 t.date.2.2).map .date).mapError .invalid
    | some time =>
      let micro := TimestampText.number ((t.fraction ++ List.replicate 6 '0').take 6)
      let zone := t.zone.map fun z =>
        let minutes : Int := z.2.1 * 60 + z.2.2
        if z.1 then -minutes else minutes
      ((Moment.ofParts t.date time micro zone).map .moment).mapError .invalid

/-- The message about the first characters beyond ASCII, none if there are none. -/
def notAscii (text : List Glyph) : Option String :=
  let isAscii (c : Glyph) := decide (c.toChar.toNat < 128)
  let position := (text.takeWhile isAscii).length
  match text.drop position with
  | [] => none
  | c :: rest =>
    let more := (rest.takeWhile (!isAscii ·)).length
    let place :=
      if more = 0 then
        "character '" ++ String.ofList c.codeEscape ++ "' in position " ++ toString position
      else "characters in position " ++ toString position ++ "-" ++ toString (position + more)
    some ("'ascii' codec can't encode " ++ place ++ ": ordinal not in range(128)")

/-- The bytes of a scalar. -/
def bytesOf (text : List Glyph) (start : Mark) : Except ReadError Value :=
  match notAscii text with
  | some message =>
    .error (faultHere ("failed to convert base64 data into ascii: " ++ message) start)
  | none =>
    match Text.ofBase64 (Glyph.toChars text) with
    | .ok data => .ok (.bytes data)
    | .error message => .error (faultHere ("failed to decode base64 data: " ++ message) start)

/-! ### Putting values together -/

/-- A collection that is to be filled. -/
structure Task where
  /-- Its node. -/
  node : Nat
  /-- The tag of the node. -/
  tag : Tag
  deriving Inhabited

/-- The state while values are put together. -/
structure Builder where
  /-- The nodes of the document. Merged pairs are put into them. -/
  nodes : Array Node
  /-- The values of the nodes that have been met. -/
  values : Array (Option Value)
  /-- The collections so far. -/
  collections : Array Collection := #[]
  /-- How each of them is filled. -/
  tasks : Array Task := #[]

/-- A step in putting values together. -/
abbrev Build := StateT Builder (Except ReadError)

namespace Build

/-- The node of a number. -/
def node (n : Nat) : Build Node := do pure ((← get).nodes.getD n default)

/-- Change a node. -/
def modifyNode (n : Nat) (f : Node → Node) : Build Unit :=
  modify fun s => { s with nodes := s.nodes.modify n f }

/-- The pairs of a node. -/
def pairsOf (n : Nat) : Build (List (Nat × Nat)) := do
  match (← node n).content with
  | .mapping pairs => pure pairs
  | _ => pure []

/-- The fault of a node of the wrong kind. -/
def wrongKind (expected : String) (n : Node) : ReadError :=
  faultHere ("expected a " ++ expected ++ " node, but found " ++ n.content.label) n.start

/-- The text of a node that should be a scalar. A mapping with a default value stands for it. -/
def scalarText : Nat → Nat → Build (List Glyph)
  | 0, _ => throw .endless
  | bound + 1, n => do
    let here ← node n
    match here.content with
    | .scalar text => pure text
    | .sequence _ => throw (wrongKind "scalar" here)
    | .mapping pairs =>
      let nodes := (← get).nodes
      match pairs.find? fun p => (nodes.getD p.1 default).tag = .value with
      | some p => scalarText bound p.2
      | none => throw (wrongKind "scalar" here)

/-! ### Merged mappings -/

/-- The context of faults in a mapping. -/
def mappingContext : String := "while constructing a mapping"

mutual

/-- Put the pairs of the mappings that a mapping merges before its own. -/
def flatten (bound : Nat) (n : Nat) : Build Unit :=
  match bound with
  | 0 => pure ()
  | bound + 1 => do
    let merged ← flattenFrom bound n 0
    if !merged.isEmpty then
      modifyNode n fun node =>
        match node.content with
        | .mapping pairs => { node with content := .mapping (merged ++ pairs) }
        | _ => node

/-- Take the merging pairs out of a mapping, from the one at a place on, and give the pairs of the
mappings that they merge. The key of a default value becomes a text. -/
def flattenFrom (bound : Nat) (n place : Nat) : Build (List (Nat × Nat)) :=
  match bound with
  | 0 => pure []
  | bound + 1 => do
    match (← pairsOf n)[place]? with
    | none => pure []
    | some (key, value) =>
      match (← node key).tag with
      | .merge =>
        modifyNode n fun node =>
          match node.content with
          | .mapping pairs => { node with content := .mapping (pairs.eraseIdx place) }
          | _ => node
        let source ← node value
        let merged ←
          match source.content with
          | .mapping _ => do
            flatten bound value
            pairsOf value
          | .sequence items => do
            let parts ← mergeItems bound n items
            pure parts.reverse.flatten
          | .scalar _ => do
            throw (.malformed (.misplaced (some mappingContext) (some (← node n).start)
              ("expected a mapping or list of mappings for merging, but found " ++
                source.content.label) source.start))
        pure (merged ++ (← flattenFrom bound n place))
      | .value =>
        modifyNode key fun node => { node with tag := .str }
        flattenFrom bound n (place + 1)
      | _ => flattenFrom bound n (place + 1)

/-- The pairs of the mappings that are merged together. -/
def mergeItems (bound : Nat) (n : Nat) (items : List Nat) : Build (List (List (Nat × Nat))) :=
  match bound, items with
  | 0, _ => pure []
  | _, [] => pure []
  | bound + 1, item :: items => do
    let source ← node item
    match source.content with
    | .mapping _ =>
      flatten bound item
      let pairs ← pairsOf item
      pure (pairs :: (← mergeItems bound n items))
    | _ =>
      throw (.malformed (.misplaced (some mappingContext) (some (← node n).start)
        ("expected a mapping for merging, but found " ++ source.content.label) source.start))

end

/-- A bound on the steps of merging. Each of them takes a pair or an item. -/
def mergeBound (nodes : Array Node) : Nat :=
  let size := nodes.foldl (fun n node =>
    match node.content with
    | .scalar _ => n + 1
    | .sequence items => n + items.length + 1
    | .mapping pairs => n + pairs.length + 1) 0
  4 * (size + 1) * (size + 1)

/-! ### Values of nodes -/

/-- Let a node have a collection as its value, which is filled later. -/
def begin (n : Nat) (tag : Tag) (empty : Collection) : Build Value := do
  let number := (← get).collections.size
  modify fun s =>
    { s with
      collections := s.collections.push empty
      tasks := s.tasks.push ⟨n, tag⟩ }
  pure (.collection number)

/-- Find the value of a node that has been met for the first time. -/
def firstValue (n : Nat) : Build Value := do
  let here ← node n
  let text := do scalarText ((← get).nodes.size + 1) n
  match here.tag with
  | .null => do
    let _ ← text
    pure .null
  | .bool => do pure (.bool (← truthOf (← text)))
  | .int => do pure (.int (← integerOf (← text)))
  | .float => do
    let text ← text
    match ← realOf text with
    | .notANumber => pure (.notANumber (if isNoNumberWord text then none else some n))
    | x => pure (.real x)
  | .str => do pure (.text (← text))
  | .binary => do bytesOf (← text) here.start
  | .timestamp => do
    let text ← text
    match here.content with
    | .scalar _ => timestampOf text
    | _ => throw .mappingForTimestamp
  | .seq | .omap | .pairs => begin n here.tag (.list [])
  | .map => begin n here.tag (.mapping [])
  | .set => begin n here.tag (.set [])
  | .merge | .value | .other _ =>
    throw (faultHere
      ("could not determine a constructor for the tag " ++ Text.quotedString here.tag.text)
      here.start)

/-- The value of a node. -/
def value (n : Nat) : Build Value := do
  match (← get).values.getD n none with
  | some v => pure v
  | none =>
    let v ← firstValue n
    modify fun s => { s with values := s.values.modify n fun _ => some v }
    pure v

/-! ### Filling collections -/

/-- The pairs of a mapping, the last value for each key. -/
def mappingPairs (n : Nat) : Build (List (Value × Value)) := do
  let here ← node n
  match here.content with
  | .mapping pairs =>
    let nodes := (← get).nodes
    if pairs.any fun p => (nodes.getD p.1 default).tag.isReserved then
      flatten (mergeBound nodes) n
    (← pairsOf n).foldlM
      (fun done (key, val) => do
        let k ← value key
        if !k.isKey then
          throw (.malformed (.misplaced (some mappingContext) (some here.start)
            "found unhashable key" (← node key).start))
        let v ← value val
        pure (Value.putPair k v done))
      []
  | _ => throw (wrongKind "mapping" here)

/-- The entries of a sequence of mappings with one pair each. -/
def entries (context : String) (n : Nat) : Build (List Value) := do
  let here ← node n
  match here.content with
  | .sequence items =>
    items.mapM fun item => do
      let entry ← node item
      match entry.content with
      | .mapping [(key, val)] => do
        let k ← value key
        pure (.pair k (← value val))
      | .mapping pairs =>
        throw (.malformed (.misplaced (some context) (some here.start)
          ("expected a single mapping item, but found " ++ toString pairs.length ++ " items")
          entry.start))
      | _ =>
        throw (.malformed (.misplaced (some context) (some here.start)
          ("expected a mapping of length 1, but found " ++ entry.content.label) entry.start))
  | _ =>
    throw (.malformed (.misplaced (some context) (some here.start)
      ("expected a sequence, but found " ++ here.content.label) here.start))

/-- What a collection is filled with. -/
def filling (t : Task) : Build Collection := do
  match t.tag with
  | .map => do pure (.mapping (← mappingPairs t.node))
  | .set => do pure (.set (SetOrder.listed ((← mappingPairs t.node).map Prod.fst)))
  | .omap => do pure (.list (← entries "while constructing an ordered map" t.node))
  | .pairs => do pure (.list (← entries "while constructing pairs" t.node))
  | _ =>
    let here ← node t.node
    match here.content with
    | .sequence items => do pure (.list (← items.mapM value))
    | _ => throw (wrongKind "sequence" here)

/-- Fill the collections from a number on, and those that are met on the way. -/
def fillAll (bound number : Nat) : Build Unit :=
  match bound with
  | 0 => pure ()
  | bound + 1 => do
    match (← get).tasks[number]? with
    | none => pure ()
    | some t =>
      let content ← filling t
      modify fun s => { s with collections := s.collections.modify number fun _ => content }
      fillAll bound (number + 1)

end Build

/-- What a document stands for. Each node gives at most one collection. -/
def Document.data (doc : Document) : Except ReadError Data := do
  let build : Build Value := do
    let root ← Build.value doc.root
    Build.fillAll (doc.nodes.size + 1) 0
    pure root
  let (root, s) ←
    build.run { nodes := doc.nodes, values := Array.replicate doc.nodes.size none }
  pure ⟨root, s.collections⟩

/-- What a text stands for; a text without a document stands for nothing. -/
def Data.ofText (text : List Char) : Except ReadError Data :=
  match Document.ofText text with
  | .error fault => .error (.malformed fault)
  | .ok none => .ok { root := .null }
  | .ok (some doc) => doc.data

end DefectScan.Yaml
