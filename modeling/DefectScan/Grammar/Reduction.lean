import DefectScan.Grammar.Standing

/-!
# Completing items

Completing an item takes its parts off a reading and puts the piece they make together in their
place. Where a knot has several ways back, the parts can be taken off in several ways: each knot
that is reached gives a reading of its own, and among the ways to one knot the best piece is taken.
-/

namespace DefectScan.Grammar

namespace Reading

/-- The number of readings that may be open between two tokens. -/
def maxOpenReadings : Nat := 10

/-- The piece that the first of the ways to a knot makes, or a better one that another way makes,
with what may stand anywhere behind it. -/
def bestPiece (make : List Piece → Piece) : List (List Piece) → Piece × List Piece
  | [] => (make [], [])
  | first :: others =>
    let complete (pieces : List Piece) : Piece × List Piece :=
      let (parts, extras) := Piece.splitExtras pieces
      (make parts, extras)
    others.foldl
      (fun best pieces =>
        let next := complete pieces
        if best.1.yieldsTo next.1 then next else best)
      (complete first)

/-- Complete an item. The first of the readings that come out of it is given, if any is new. -/
def reduce (a : Automaton) (v item : Nat) : Reading (Option Nat) := do
  let s := a.items.symbols
  let fact := a.items.fact item
  let initial ← tipCount
  for (k, ways) in ← behind v fact.size do
    if (← tipCount) ≤ maxOpenReadings then
      let start ← knot k
      let (piece, extras) := bestPiece
        (fun parts => Piece.join s (.symbol fact.head) fact.labels parts start.place.bytes) ways
      let next := start.station.bind fun n => (a.stations.getD n default).moves.get? fact.head
      let new ← openTip k v
      push s new (some (piece.addWeight fact.weight)) next
      for extra in extras do
        push s new (some extra) next
      let _ ← mergeInto s new ((List.range new).filter (· ≠ v))
  return if initial < (← tipCount) then some initial else none

/-- The whole text as one piece: the last piece that belongs to a rule takes in all the others. -/
def wholeText (s : Symbols) (pieces : List Piece) : Option Piece :=
  let (parts, extras) := Piece.splitExtras pieces
  parts.getLast?.map fun p =>
    Piece.join s p.info.kind p.info.labels (parts.dropLast ++ p.parts ++ extras) 0

/-- Take a reading as complete. -/
def accept (s : Symbols) (v : Nat) : Reading Unit := do
  let knots := (← get).knots
  let ways ← follow v
    (fun (found : List (List Piece)) p =>
      if (knots.getD p.knot default).links.isEmpty then (p.pieces :: found, true)
      else (found, false)) []
  for pieces in ways.reverse do
    let whole := wholeText s pieces
    modify fun r =>
      { r with
        completed := r.completed + 1
        finished :=
          match r.finished, whole with
          | some p, some q => if p.yieldsTo q then some q else some p
          | none, q => q
          | p, none => p }
  endTip v

end Reading

end DefectScan.Grammar
