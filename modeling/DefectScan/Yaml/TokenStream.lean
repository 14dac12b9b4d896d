import DefectScan.Yaml.ScalarText

/-!
# Token streams

Cuts a text into tokens. Two things need memory. The indentations of the open blocks decide when a
block begins and ends. And a scalar, say, may turn out to be the key of a mapping when a colon
follows on its line; the tokens that open the key are then put in front of it after the fact. A
token that may still become a key is not handed out, so a fault found further on comes before it.
-/

namespace DefectScan.Yaml

/-- A token that becomes a key if a colon follows. -/
structure PossibleKey where
  /-- How many tokens come before it. -/
  number : Nat
  /-- Whether it has to be a key, since its line begins with it in a block mapping. -/
  isRequired : Bool
  /-- How many characters come before it. -/
  index : Nat
  /-- Where it begins. -/
  mark : Mark
  deriving Repr, Inhabited

/-- The state between two tokens. -/
structure Scanner where
  /-- The place in the text. -/
  cursor : Cursor
  /-- The tokens so far, last one first. -/
  tokens : List Token := []
  /-- How many tokens there are. -/
  count : Nat := 0
  /-- How many more flow collections were opened than closed. -/
  flowLevel : Int := 0
  /-- The indentation of the innermost block, minus one outside of blocks. -/
  indent : Int := -1
  /-- The indentations of the blocks around it, innermost first. -/
  outerIndents : List Int := []
  /-- The tokens that may become keys, at most one for each level. -/
  keys : List (Int × PossibleKey) := []
  /-- Whether a key may begin here. -/
  allowsKey : Bool := true
  /-- Whether the end of the text was reached. -/
  isDone : Bool := false
  deriving Repr, Inhabited

namespace Scanner

/-- A step to the next token. -/
abbrev Step := Except Fault Scanner

/-- Whether the place is inside a flow collection. -/
def inFlow (s : Scanner) : Bool := s.flowLevel != 0

/-- Where the place is. -/
def mark (s : Scanner) : Mark := s.cursor.mark

/-- The column of the place. -/
def column (s : Scanner) : Int := s.cursor.mark.column

/-- Add a token. -/
def push (s : Scanner) (kind : TokenKind) (start stop : Mark) : Scanner :=
  { s with tokens := ⟨kind, start, stop⟩ :: s.tokens, count := s.count + 1 }

/-- Add a token without characters. -/
def pushHere (s : Scanner) (kind : TokenKind) : Scanner := s.push kind s.mark s.mark

/-- Add a token of the next characters. -/
def pushChars (s : Scanner) (kind : TokenKind) (length : Nat) : Scanner :=
  let c := s.cursor.advance length
  { s.push kind s.mark c.mark with cursor := c }

/-- Put a token without characters in front of the one with the given number. -/
def insert (s : Scanner) (number : Nat) (kind : TokenKind) (mark : Mark) : Scanner :=
  { s with
    tokens := s.tokens.insertIdx (s.count - number) ⟨kind, mark, mark⟩
    count := s.count + 1 }

/-! ### Possible keys -/

/-- The fault of a key without its colon. -/
def missingColon (s : Scanner) (key : PossibleKey) : Fault :=
  .misplaced (some "while scanning a simple key") (some key.mark)
    "could not find expected ':'" s.mark

/-- Give up those tokens as keys that are on another line or too far back. -/
def dropStale (s : Scanner) : Step :=
  let isStale (k : Int × PossibleKey) : Bool :=
    k.2.mark.line != s.mark.line || decide (s.cursor.index - k.2.index > 1024)
  match s.keys.find? fun k => isStale k && k.2.isRequired with
  | some k => .error (s.missingColon k.2)
  | none => .ok { s with keys := s.keys.filter (!isStale ·) }

/-- Give up the possible key of this level. -/
def dropKey (s : Scanner) : Step :=
  match s.keys.lookup s.flowLevel with
  | none => .ok s
  | some key =>
    if key.isRequired then .error (s.missingColon key)
    else .ok { s with keys := s.keys.filter (·.1 != s.flowLevel) }

/-- Note that the next token may become a key. -/
def noteKey (s : Scanner) : Step :=
  if !s.allowsKey then .ok s
  else do
    let s ← s.dropKey
    let key : PossibleKey :=
      { number := s.count
        isRequired := !s.inFlow && s.indent == s.column
        index := s.cursor.index
        mark := s.mark }
    .ok { s with keys := s.keys ++ [(s.flowLevel, key)] }

/-- How many tokens can be handed out: those before the first that may become a key. -/
def settled (s : Scanner) : Nat := s.keys.foldl (fun n k => min n k.2.number) s.count

/-! ### Indentation -/

/-- Close the blocks that are indented further than the column. -/
def closeBlocks (s : Scanner) (column : Int) : Scanner :=
  if s.inFlow then s
  else
    let open_ := s.indent :: s.outerIndents
    let closed := (open_.takeWhile (column < ·)).length
    let left := open_.drop closed
    let s := { s with indent := left.head?.getD (-1), outerIndents := left.drop 1 }
    (List.replicate closed TokenKind.blockEnd).foldl pushHere s

/-- Whether a block begins at the column. -/
def opensBlock (s : Scanner) (column : Int) : Bool := s.indent < column

/-- The state inside a new block at the column. -/
def enterBlock (s : Scanner) (column : Int) : Scanner :=
  { s with indent := column, outerIndents := s.indent :: s.outerIndents }

/-- Open a block here, unless one is open. -/
def openBlock (s : Scanner) (kind : TokenKind) : Scanner :=
  if s.opensBlock s.column then (s.enterBlock s.column).pushHere kind else s

/-! ### Tokens -/

/-- Skip spaces, comments and line ends. After a line end a key may begin, except in a flow
collection. -/
def skipGaps : Nat → Scanner → Scanner
  | 0, s => s
  | n + 1, s =>
    let c := (s.cursor.skip (· == ' ')).skipComment
    if isBreak c.peek then
      skipGaps n { s with cursor := c.lineBreak.2, allowsKey := s.allowsKey || !s.inFlow }
    else { s with cursor := c }

/-- The fault of something that may not stand here. -/
def notHere (s : Scanner) (what : String) : Fault :=
  .misplaced none none (what ++ " are not allowed here") s.mark

/-- The end of the text. -/
def streamEnd (s : Scanner) : Step := do
  let s ← (s.closeBlocks (-1)).dropKey
  .ok { s.pushHere .streamEnd with allowsKey := false, keys := [], isDone := true }

/-- A directive. -/
def directive (s : Scanner) : Step := do
  let s ← (s.closeBlocks (-1)).dropKey
  let ((d, stop), c) ← readDirective s.cursor
  .ok { s.push (.directive d) s.mark stop with cursor := c, allowsKey := false }

/-- The sign that begins or ends a document. -/
def documentSign (s : Scanner) (kind : TokenKind) : Step := do
  let s ← (s.closeBlocks (-1)).dropKey
  .ok { s.pushChars kind 3 with allowsKey := false }

/-- The sign that opens a flow collection. -/
def flowStart (s : Scanner) (kind : TokenKind) : Step := do
  let s ← s.noteKey
  .ok { s.pushChars kind 1 with flowLevel := s.flowLevel + 1, allowsKey := true }

/-- The sign that closes a flow collection. -/
def flowEnd (s : Scanner) (kind : TokenKind) : Step := do
  let s ← s.dropKey
  .ok { s.pushChars kind 1 with flowLevel := s.flowLevel - 1, allowsKey := false }

/-- The comma between two entries. -/
def flowEntry (s : Scanner) : Step := do
  let s ← s.dropKey
  .ok { s.pushChars .flowEntry 1 with allowsKey := true }

/-- The dash before an entry. -/
def blockEntry (s : Scanner) : Step := do
  if !s.inFlow && !s.allowsKey then .error (s.notHere "sequence entries")
  else
    let s := if s.inFlow then s else s.openBlock .blockSequenceStart
    let s ← s.dropKey
    .ok { s.pushChars .blockEntry 1 with allowsKey := true }

/-- The question mark before a key. -/
def keySign (s : Scanner) : Step := do
  if !s.inFlow && !s.allowsKey then .error (s.notHere "mapping keys")
  else
    let s := if s.inFlow then s else s.openBlock .blockMappingStart
    let s ← s.dropKey
    .ok { s.pushChars .key 1 with allowsKey := !s.inFlow }

/-- The colon before a value. The possible key of this level becomes a key. -/
def valueSign (s : Scanner) : Step := do
  match s.keys.lookup s.flowLevel with
  | some key =>
    let s := { s with keys := s.keys.filter (·.1 != s.flowLevel) }
    let s := s.insert key.number .key key.mark
    let s :=
      if !s.inFlow && s.opensBlock key.mark.column then
        (s.enterBlock key.mark.column).insert key.number .blockMappingStart key.mark
      else s
    .ok { s.pushChars .value 1 with allowsKey := false }
  | none =>
    if !s.inFlow && !s.allowsKey then .error (s.notHere "mapping values")
    else
      let s := if s.inFlow then s else s.openBlock .blockMappingStart
      .ok { s.pushChars .value 1 with allowsKey := !s.inFlow }

/-- An alias or an anchor. -/
def reference (s : Scanner) (what : String) (kind : List Char → TokenKind) : Step := do
  let s ← s.noteKey
  let (name, c) ← readReference what s.cursor
  .ok { s.push (kind name) s.mark c.mark with cursor := c, allowsKey := false }

/-- A tag. -/
def tag (s : Scanner) : Step := do
  let s ← s.noteKey
  let ((handle, suffix), c) ← readTag s.cursor
  .ok { s.push (.tag handle suffix) s.mark c.mark with cursor := c, allowsKey := false }

/-- A block scalar. -/
def blockScalar (s : Scanner) (isFolded : Bool) : Step := do
  let s ← s.dropKey
  let ((text, stop), c) ← readBlock isFolded s.indent s.cursor
  .ok { s.push (.scalar (Text.Glyph.ofChars text) false) s.mark stop with
        cursor := c, allowsKey := true }

/-- A quoted scalar. -/
def quotedScalar (s : Scanner) (isDouble : Bool) : Step := do
  let s ← s.noteKey
  let (text, c) ← readQuoted isDouble s.cursor
  .ok { s.push (.scalar text false) s.mark c.mark with cursor := c, allowsKey := false }

/-- A plain scalar. -/
def plainScalar (s : Scanner) : Step := do
  let s ← s.noteKey
  let (read, c) := readPlain s.inFlow s.indent s.cursor
  .ok { s.push (.scalar (Text.Glyph.ofChars read.text) true) s.mark read.stop with
        cursor := c, allowsKey := read.crossedLine }

/-- Whether a plain scalar may begin here. -/
def startsPlain (s : Scanner) : Bool :=
  let a := s.cursor.peek
  !(isWideGap a || "-?:,[]\x7b\x7d#&*!|>'\"%@`".toList.contains a) ||
    (!isWideGap (s.cursor.peek 1) && (a == '-' || (!s.inFlow && (a == '?' || a == ':'))))

/-- Read the next token. -/
def next (s : Scanner) : Step := do
  let start := if s.cursor.index = 0 && s.cursor.peek == '\uFEFF' then s.cursor.next else s.cursor
  let s ← (skipGaps (start.left + 1) { s with cursor := start }).dropStale
  let s := s.closeBlocks s.column
  let a := s.cursor.peek
  let isSign := isWideGap (s.cursor.peek 1)
  let atSeparator := s.column == 0 && s.cursor.atSeparator
  if a == '\x00' then s.streamEnd
  else if a == '%' && s.column == 0 then s.directive
  else if a == '-' && atSeparator then s.documentSign .documentStart
  else if a == '.' && atSeparator then s.documentSign .documentEnd
  else if a == '[' then s.flowStart .flowSequenceStart
  else if a == '{' then s.flowStart .flowMappingStart
  else if a == ']' then s.flowEnd .flowSequenceEnd
  else if a == '}' then s.flowEnd .flowMappingEnd
  else if a == ',' then s.flowEntry
  else if a == '-' && isSign then s.blockEntry
  else if a == '?' && (s.inFlow || isSign) then s.keySign
  else if a == ':' && (s.inFlow || isSign) then s.valueSign
  else if a == '*' then s.reference "alias" .alias
  else if a == '&' then s.reference "anchor" .anchor
  else if a == '!' then s.tag
  else if a == '|' && !s.inFlow then s.blockScalar false
  else if a == '>' && !s.inFlow then s.blockScalar true
  else if a == '\'' then s.quotedScalar false
  else if a == '"' then s.quotedScalar true
  else if s.startsPlain then s.plainScalar
  else
    .error (.misplaced (some "while scanning for the next token") none
      ("found character " ++ shownChar a ++ " that cannot start any token") s.mark)

end Scanner

/-- The tokens of a text, up to the fault that ends them, if there is one. -/
structure TokenStream where
  /-- The tokens. -/
  tokens : List Token
  /-- The fault after them. -/
  fault : Option Fault := none
  deriving Repr, Inhabited

namespace TokenStream

/-- Read on until the end of the text, where the first `ready` tokens were handed out. -/
def scan : (fuel ready : Nat) → Scanner → TokenStream
  | 0, ready, s => ⟨s.tokens.reverse.take ready, none⟩
  | n + 1, ready, s =>
    match s.dropStale with
    | .error fault => ⟨s.tokens.reverse.take ready, some fault⟩
    | .ok s =>
      if s.isDone then ⟨s.tokens.reverse, none⟩
      else
        match s.next with
        | .error fault => ⟨s.tokens.reverse.take s.settled, some fault⟩
        | .ok next => scan n s.settled next

/-- The tokens of a text. -/
def ofText (text : List Char) : TokenStream :=
  match firstUnacceptable? text with
  | some (c, position) => ⟨[], some (.unacceptable c position)⟩
  | none => scan (text.length + 2) 0 { cursor := { rest := text } }

end TokenStream

end DefectScan.Yaml
