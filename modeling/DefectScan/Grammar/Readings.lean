import DefectScan.Grammar.Piece

/-!
# Readings side by side

While a text is read, several readings of it can be open. They share what they have in common: the
states that have been passed are knots, and links lead from a knot back to the knots before it,
with the piece that was read between them. Each open reading has a tip, the knot it has come to.
Readings that come to the same state at the same place are merged into one, whose knot has several
links.
-/

namespace DefectScan.Grammar

/-! ### Knots and tips -/

/-- The way from a knot back to one before it. -/
structure Link where
  /-- The knot before. -/
  back : Nat
  /-- What was read between them; nothing where an error begins. -/
  piece : Option Piece
  deriving Inhabited

/-- A state that has been passed at some place. -/
structure Knot where
  /-- The state of the automaton; there is none while searching for a place to go on. -/
  station : Option Nat
  /-- The ways back. -/
  links : List Link := []
  /-- How much has been read. -/
  place : Extent := {}
  /-- The weight of the pieces up to here. -/
  weight : Int := 0
  /-- The cost of the errors up to here. -/
  cost : Nat := 0
  /-- The number of nodes up to here. -/
  count : Nat := 0
  deriving Inhabited

/-- Whether two knots are the same state at the same place, at the same cost. -/
def Knot.meets (a b : Knot) : Bool :=
  a.station = b.station && a.place.bytes = b.place.bytes && a.cost = b.cost

/-- A state that was passed before an error, to which a reading may return. -/
structure Landmark where
  /-- How much had been read. -/
  place : Extent
  /-- The number of pieces read since. -/
  depth : Nat
  /-- The state. -/
  station : Option Nat
  deriving DecidableEq, Repr, Inhabited

/-- How it stands with an open reading. -/
inductive TipStatus where
  /-- It goes on. -/
  | active
  /-- It cannot go on with the given token. -/
  | waiting (token : Token)
  /-- It is over. -/
  | ended
  deriving Inhabited

/-- The end of an open reading. -/
structure Tip where
  /-- The knot it has come to. -/
  knot : Nat
  /-- How it stands with it. -/
  status : TipStatus := .active
  /-- The number of nodes at its last error. -/
  base : Nat := 0
  /-- The states to which it may return. -/
  landmarks : List Landmark := []
  deriving Inhabited

/-- The weight of what a link carries. -/
def Link.weight (l : Link) : Int := (l.piece.map fun p => p.info.weight).getD 0

/-- Whether two links carry pieces that take the same place. -/
def Link.isLike (a b : Link) : Bool :=
  match a.piece, b.piece with
  | some p, some q => p.isLike q
  | none, none => true
  | _, _ => false

/-- Whether a reading goes on. -/
def Tip.isActive (t : Tip) : Bool := t.status matches .active

/-- Whether a reading cannot go on with its next token. -/
def Tip.isWaiting (t : Tip) : Bool := t.status matches .waiting _

/-- Whether a reading is over. -/
def Tip.isEnded (t : Tip) : Bool := t.status matches .ended

/-- The readings of a text. -/
structure Readings where
  /-- The knots. -/
  knots : Array Knot
  /-- The open readings, the best ones first. -/
  tips : Array Tip
  /-- The best complete reading. -/
  finished : Option Piece := none
  /-- The number of complete readings. -/
  completed : Nat := 0
  deriving Inhabited

/-- One reading that stands at the beginning. -/
def Readings.atStart : Readings := { knots := #[{ station := some 0 }], tips := #[{ knot := 0 }] }

/-- What changes the readings. -/
abbrev Reading := StateM Readings

namespace Reading

/-- The knot of a number. -/
def knot (k : Nat) : Reading Knot := return (← get).knots.getD k default

/-- The tip of a number. -/
def tip (v : Nat) : Reading Tip := return (← get).tips.getD v default

/-- The knot that a reading has come to. -/
def knotOf (v : Nat) : Reading Knot := do knot (← tip v).knot

/-- The number of open readings. -/
def tipCount : Reading Nat := return (← get).tips.size

/-- Change a knot. -/
def modifyKnot (k : Nat) (f : Knot → Knot) : Reading Unit :=
  modify fun r => { r with knots := r.knots.modify k f }

/-- Change a tip. -/
def modifyTip (v : Nat) (f : Tip → Tip) : Reading Unit :=
  modify fun r => { r with tips := r.tips.modify v f }

/-- End a reading. -/
def endTip (v : Nat) : Reading Unit := modifyTip v fun t => { t with status := .ended }

/-- Drop a reading. -/
def removeTip (v : Nat) : Reading Unit :=
  modify fun r => { r with tips := r.tips.eraseIdxIfInBounds v }

/-- Open a reading at a knot, as far from its last error as another one, and give its number. -/
def openTip (k v : Nat) : Reading Nat := do
  let n ← tipCount
  let base := (← tip v).base
  modify fun r => { r with tips := r.tips.push { knot := k, base } }
  return n

/-- Let a reading take the place of an earlier one. It may return to the states of either. -/
def replaceTip (new old : Nat) : Reading Unit := do
  if new ≠ old then
    let t ← tip new
    modifyTip old fun o =>
      if t.landmarks.isEmpty then { t with landmarks := o.landmarks } else t
    removeTip new

/-- Let a reading come to a state with another piece. -/
def push (s : Symbols) (v : Nat) (piece : Option Piece) (station : Option Nat) : Reading Unit := do
  let t ← tip v
  let before ← knot t.knot
  let after : Knot :=
    match piece with
    | none => { before with station, links := [⟨t.knot, none⟩] }
    | some p =>
      { station
        links := [⟨t.knot, some p⟩]
        place := before.place + p.info.gap + p.info.size
        weight := before.weight + p.info.weight
        cost := before.cost + p.info.cost
        count := before.count + s.nodeCount p }
  let k := (← get).knots.size
  modify fun r => { r with knots := r.knots.push after }
  modifyTip v fun t =>
    { t with knot := k, base := if piece.isNone then after.count else t.base }

/-! ### Merging -/

/-- The number of ways back that a knot may have. -/
def maxLinks : Nat := 8

/-- Give a knot another way back. Of two ways with pieces for the same place the heavier piece
stays, and what lies behind them is merged. -/
def addLink (s : Symbols) : Nat → Nat → Link → Reading Unit
  | 0, _, _ => return
  | bound + 1, k, link => do
    if link.back ≠ k then
      let r ← get
      let here := r.knots.getD k default
      let there := r.knots.getD link.back default
      let weight := there.weight + link.weight
      let known := here.links.findIdx? fun l =>
        l.isLike link && (l.back = link.back || (r.knots.getD l.back default).meets there)
      match known with
      | some i =>
        let l := here.links.getD i default
        if l.back ≠ link.back then
          there.links.forM (addLink s bound l.back)
          modifyKnot k fun h => { h with weight := max h.weight weight }
        else if l.weight < link.weight then
          modifyKnot k fun h => { h with links := h.links.set i link, weight }
      | none =>
        if here.links.length < maxLinks then
          let count := there.count + (link.piece.map s.nodeCount).getD 0
          modifyKnot k fun h =>
            { h with
              links := h.links ++ [link]
              weight := max h.weight weight
              count := max h.count count }

/-- Merge a reading into another one, if they have come to the same state at the same place. -/
def merge (s : Symbols) (kept other : Nat) : Reading Bool := do
  let a ← tip kept
  let b ← tip other
  let x ← knot a.knot
  let y ← knot b.knot
  if a.isActive && b.isActive && x.meets y then
    y.links.forM (addLink s (← get).knots.size a.knot)
    if x.station.isNone then
      let count := (← knot a.knot).count
      modifyTip kept fun t => { t with base := count }
    removeTip other
    return true
  else return false

/-- Merge a reading into the first of the given ones that it meets. -/
def mergeInto (s : Symbols) (other : Nat) : List Nat → Reading Bool
  | [] => return false
  | v :: vs => do
    if ← merge s v other then return true else mergeInto s other vs

end Reading

/-! ### Going back -/

/-- A way back from a tip. -/
structure Path where
  /-- The knot it has reached. -/
  knot : Nat
  /-- The pieces on the way, in the order of the text. -/
  pieces : List Piece := []
  /-- The number of those that belong to rules. -/
  depth : Nat := 0
  deriving Inhabited

/-- The number of ways that are followed at once. -/
def maxPaths : Nat := 64

namespace Path

/-- The ways on from a path. -/
def onward (knots : Array Knot) (p : Path) : List Path :=
  (knots.getD p.knot default).links.map fun l =>
    { knot := l.back
      pieces := l.piece.toList ++ p.pieces
      depth := if l.piece.any fun q => q.info.isExtra then p.depth else p.depth + 1 }

/-- Follow each path by one step. A path that branches makes room for its other branches at the end,
as far as there is any. -/
def stepAll {α : Type} (knots : Array Knot) (visit : α → Path → α × Bool) :
    List Path → (kept added : List Path) → α → α × List Path
  | [], kept, added, seen => (seen, kept.reverse ++ added)
  | p :: rest, kept, added, seen =>
    let (seen, isEnd) := visit seen p
    match if isEnd then [] else p.onward knots with
    | [] => stepAll knots visit rest kept added seen
    | first :: others =>
      let room := maxPaths - (kept.length + 1 + rest.length + added.length)
      stepAll knots visit rest (first :: kept) (added ++ others.take room) seen

/-- Follow paths back until all of them end. -/
def followAll {α : Type} (knots : Array Knot) (visit : α → Path → α × Bool) :
    Nat → List Path → α → α
  | 0, _, seen => seen
  | bound + 1, paths, seen =>
    match stepAll knots visit paths [] [] seen with
    | (seen, []) => seen
    | (seen, paths) => followAll knots visit bound paths seen

end Path

namespace Reading

/-- Follow the ways back from a tip. -/
def follow {α : Type} (v : Nat) (visit : α → Path → α × Bool) (seen : α) : Reading α := do
  let r ← get
  return Path.followAll r.knots visit (r.knots.size + 1) [{ knot := (← tip v).knot }] seen

/-- The knots that lie the given number of pieces behind a tip, each with the ways to it. -/
def behind (v depth : Nat) : Reading (List (Nat × List (List Piece))) := do
  let paths ← follow v
    (fun (found : List Path) p => if p.depth = depth then (p :: found, true) else (found, false)) []
  let paths := paths.reverse
  return (paths.map Path.knot).eraseDups.map fun k =>
    (k, (paths.filter fun p => p.knot == k).map Path.pieces)

end Reading

end DefectScan.Grammar
