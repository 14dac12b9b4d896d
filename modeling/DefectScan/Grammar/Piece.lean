import DefectScan.Grammar.Scan
import DefectScan.Tree.Node

/-!
# Pieces

A piece is a part of a reading: a token, or the parts that a rule puts together. Pieces also stand
for tokens that are missing and for stretches of text that no rule fits. A piece knows what it
counts against other readings: the weight of its rules, and the cost of the errors in it.
-/

namespace DefectScan.Grammar

/-- What a piece stands for. -/
inductive PieceKind where
  /-- A symbol of the grammar. -/
  | symbol (n : Nat)
  /-- Text that no rule fits. -/
  | error
  /-- Tokens that have been skipped so far while searching for a place to go on. -/
  | skipped
  deriving DecidableEq, Repr, Inhabited

/-- What there is to know about a piece, without its parts. -/
structure PieceInfo where
  /-- What it stands for. -/
  kind : PieceKind
  /-- The blanks before it. -/
  gap : Extent := {}
  /-- Its first byte. -/
  start : Nat
  /-- Its extent. -/
  size : Extent := {}
  /-- What is said about its parts, other than those that may stand anywhere. -/
  labels : List Label := []
  /-- The weights of its rules together. -/
  weight : Int := 0
  /-- The cost of the errors in it. -/
  cost : Nat := 0
  /-- The number of its parts that are shown. -/
  shown : Nat := 0
  /-- The number of pieces below it that are shown. -/
  below : Nat := 0
  /-- Whether it may stand anywhere, and belongs to no rule. -/
  isExtra : Bool := false
  /-- Whether it is a token that is missing from the text. -/
  isMissing : Bool := false
  deriving Inhabited

/-- A part of a reading. -/
inductive Piece where
  | mk (info : PieceInfo) (parts : List Piece)
  deriving Inhabited

namespace Piece

/-- The piece without its parts. -/
def info : Piece → PieceInfo
  | mk info _ => info

/-- The parts. -/
def parts : Piece → List Piece
  | mk _ parts => parts

/-- The byte after a piece. -/
def stop (p : Piece) : Nat := p.info.start + p.info.size.bytes

/-- Whether a piece is text that no rule fits. -/
def isError (p : Piece) : Bool := p.info.kind = .error || p.info.kind = .skipped

end Piece

/-! ### What is shown -/

/-- The kind of node that a symbol is shown as, and whether it is more than punctuation. -/
def Symbols.shownKind? (s : Symbols) (symbol : Nat) : Option (String × Bool) :=
  match s.terminals[symbol]? with
  | some .finish => none
  | some (.mark text) => some (text, false)
  | some (.lexeme l) => l.kind.map fun kind => (kind, l.isNamed)
  | none =>
    match s.rule? symbol with
    | some { showing := .node kind, .. } => some (kind, true)
    | _ => none

/-- Whether a piece is shown as a node of its own. -/
def Symbols.shows (s : Symbols) (p : Piece) : Bool :=
  p.info.isMissing ||
    match p.info.kind with
    | .symbol n => (s.shownKind? n).isSome
    | .error => true
    | .skipped => false

/-- The number of nodes that a piece is shown as, with all below it. Skipped tokens count as one
more, since skipping is progress too. -/
def Symbols.nodeCount (s : Symbols) (p : Piece) : Nat :=
  p.info.below + (if s.shows p then 1 else 0) + (if p.info.kind = .skipped then 1 else 0)

/-! ### Costs of errors -/

/-- The cost of going on after an error. -/
def recoveryCost : Nat := 500

/-- The cost of a token that is missing, besides that of going on. -/
def missingCost : Nat := 110

/-- The cost of a node that is skipped. -/
def skippedNodeCost : Nat := 100

/-- The cost of a line that is skipped. -/
def skippedLineCost : Nat := 30

/-- The cost of skipping a stretch of text: a byte costs one. -/
def Extent.skippingCost (e : Extent) : Nat := e.bytes + skippedLineCost * e.lines

/-! ### Making pieces -/

namespace Piece

/-- A token as a piece at the given byte. -/
def ofToken (t : Token) (start : Nat) (isExtra : Bool) : Piece :=
  mk
    { kind := (t.symbol.map PieceKind.symbol).getD .error
      gap := t.gap
      start
      size := t.size
      isExtra } []

/-- A missing token at the given byte. -/
def missing (symbol start : Nat) : Piece :=
  mk { kind := .symbol symbol, start, cost := missingCost + recoveryCost, isMissing := true } []

/-- What counting the parts of a piece has found so far. -/
structure Tally where
  /-- The labels that are left. -/
  labels : List Label
  /-- The weight. -/
  weight : Int := 0
  /-- The cost. -/
  cost : Nat := 0
  /-- The parts that are shown. -/
  shown : Nat := 0
  /-- The pieces below that are shown. -/
  below : Nat := 0
  /-- The line ends. -/
  lines : Nat := 0

/-- Count a part. Within text that no rule fits, the nodes that are skipped cost. -/
def Tally.count (s : Symbols) (isError : Bool) (t : Tally) (p : Piece) : Tally :=
  let label : Label := if p.info.isExtra then {} else t.labels.head?.getD {}
  let isShown := s.shows p || label.kind.isSome
  let skipped :=
    if isError && !p.info.isExtra && !(p.info.kind = .error && p.parts.isEmpty) then
      skippedNodeCost * (if s.shows p then 1 else p.info.shown)
    else 0
  { labels := if p.info.isExtra then t.labels else t.labels.tail
    weight := t.weight + p.info.weight
    cost := t.cost + skipped + (if p.info.kind = .skipped then 0 else p.info.cost)
    shown := t.shown + (if isShown then 1 else p.info.shown)
    below := t.below + p.info.below + (if isShown then 1 else 0)
    lines := t.lines + p.info.gap.lines + p.info.size.lines }

/-- Put parts together. Without parts the piece stands at the given byte. -/
def join (s : Symbols) (kind : PieceKind) (labels : List Label) (parts : List Piece) (place : Nat) :
    Piece :=
  let isError := kind = .error || kind = .skipped
  let tally := parts.foldl (Tally.count s isError) { labels }
  let gap := (parts.head?.map fun p => p.info.gap).getD {}
  let start := (parts.head?.map fun p => p.info.start).getD place
  let size : Extent :=
    ⟨(parts.getLast?.map stop).getD place - start, tally.lines - gap.lines⟩
  mk
    { kind, gap, start, size, labels
      weight := tally.weight
      cost := tally.cost + (if isError then recoveryCost + size.skippingCost else 0)
      shown := tally.shown
      below := tally.below } parts

/-- Add to the weight of a piece. -/
def addWeight (weight : Int) : Piece → Piece
  | mk info parts => mk { info with weight := info.weight + weight } parts

/-- Let a piece stand anywhere. -/
def asExtra : Piece → Piece
  | mk info parts => mk { info with isExtra := true } parts

/-! ### Comparing pieces -/


mutual

/-- Compare two pieces by their symbols and the numbers of their parts, in document order. -/
def order : Piece → Piece → Ordering
  | mk i ps, mk j qs =>
    let keys :=
      match i.kind, j.kind with
      | .symbol m, .symbol n => compare m n
      | .symbol _, _ => .lt
      | _, .symbol _ => .gt
      | _, _ => .eq
    (keys.then (compare ps.length qs.length)).then (orderAll ps qs)

/-- Compare pieces one by one. -/
def orderAll : List Piece → List Piece → Ordering
  | p :: ps, q :: qs => (p.order q).then (orderAll ps qs)
  | _, _ => .eq

end

/-- Whether another piece for the same stretch of text is to be preferred: one with cheaper
errors, then the heavier one, then the one that comes first in order. -/
def yieldsTo (p q : Piece) : Bool :=
  if p.info.cost ≠ q.info.cost then q.info.cost < p.info.cost
  else if p.info.weight ≠ q.info.weight then p.info.weight < q.info.weight
  else 0 < p.info.cost || p.order q == .gt

/-- Whether two pieces take the same place in a reading. -/
def isLike (p q : Piece) : Bool :=
  p.info.kind = q.info.kind &&
    ((0 < p.info.cost && 0 < q.info.cost) ||
      (p.info.gap.bytes = q.info.gap.bytes && p.info.size.bytes = q.info.size.bytes &&
        p.parts.length = q.parts.length && p.info.isExtra = q.info.isExtra))

/-- The parts up to the last one that belongs to a rule, and those after it. -/
def splitExtras (parts : List Piece) : List Piece × List Piece :=
  let extras := (parts.reverse.takeWhile fun p => p.info.isExtra).reverse
  (parts.take (parts.length - extras.length), extras)

end Piece

/-! ### Nodes -/

mutual

/-- The nodes that a piece is shown as, before the given ones. The nodes of a group fill the field
that the group fills, unless they fill one of their own. -/
def Symbols.nodes (s : Symbols) (label : Label) (field : Option String) (after : List Node) :
    Piece → List Node
  | .mk info parts =>
    let field := if info.isExtra then none else label.field <|> field
    let make (kind : String) (field : Option String) (isNamed : Bool) : List Node :=
      .mk
        { kind, field, isNamed
          start := info.start
          stop := info.start + info.size.bytes
          isMissing := info.isMissing }
        (s.nodesOf info.labels none [] parts) :: after
    match info.kind with
    | .error => make "ERROR" none true
    | .skipped => s.nodesOf [] none after parts
    | .symbol n =>
      match label.kind, s.shownKind? n with
      | some kind, _ => make kind field true
      | none, some (kind, isNamed) => make kind field isNamed
      | none, none =>
        if info.isMissing then make "" field false else s.nodesOf info.labels field after parts

/-- The nodes that the parts of a piece are shown as, before the given ones. -/
def Symbols.nodesOf (s : Symbols) (labels : List Label) (field : Option String)
    (after : List Node) : List Piece → List Node
  | [] => after
  | p :: ps =>
    if p.info.isExtra then s.nodes {} none (s.nodesOf labels field after ps) p
    else s.nodes (labels.head?.getD {}) field (s.nodesOf labels.tail field after ps) p

end

end DefectScan.Grammar
