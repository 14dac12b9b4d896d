import DefectScan.Grammar.Readings

/-!
# How readings stand

Readings with errors compete. What counts is the cost of their errors and how much has been read
since the last one, and among equals the weight of their rules.
-/

namespace DefectScan.Grammar

/-- How it stands with a reading. -/
structure Standing where
  /-- The cost of its errors. -/
  cost : Nat
  /-- The number of nodes since its last error. -/
  since : Nat
  /-- The weight of its rules. -/
  weight : Int
  /-- Whether it is searching for a place to go on. -/
  isLost : Bool
  deriving Repr, Inhabited

/-- Which of two readings is better. -/
inductive Preference where
  /-- The first, and the second is given up. -/
  | onlyFirst
  /-- The first. -/
  | first
  /-- Neither. -/
  | neither
  /-- The second. -/
  | second
  /-- The second, and the first is given up. -/
  | onlySecond
  deriving DecidableEq, Repr, Inhabited

/-- The difference in cost at which a reading is given up, where nothing has been read since the
last error. The more has been read, the less it takes. -/
def maxCostDifference : Nat := 2000

/-- Compare two readings. -/
def Standing.prefer (a b : Standing) : Preference :=
  if !a.isLost && b.isLost then
    if a.cost < b.cost then .onlyFirst else .first
  else if a.isLost && !b.isLost then
    if b.cost < a.cost then .onlySecond else .second
  else if a.cost < b.cost then
    if maxCostDifference < (b.cost - a.cost) * (1 + a.since) then .onlyFirst else .first
  else if b.cost < a.cost then
    if maxCostDifference < (a.cost - b.cost) * (1 + b.since) then .onlySecond else .second
  else if b.weight < a.weight then .first
  else if a.weight < b.weight then .second
  else .neither

namespace Reading

/-- The cost of a reading. One that has just met an error is about to recover from it. -/
def costOf (v : Nat) : Reading Nat := do
  let t ← tip v
  let k ← knot t.knot
  let hasMetError := t.isWaiting ||
    (k.station.isNone && k.links.head?.any fun l => l.piece.isNone)
  return k.cost + (if hasMetError then recoveryCost else 0)

/-- The number of nodes since the last error of a reading. -/
def sinceError (v : Nat) : Reading Nat := do
  let t ← tip v
  let count := (← knot t.knot).count
  if count < t.base then
    modifyTip v fun t => { t with base := count }
    return 0
  else return count - t.base

/-- How it stands with a reading. -/
def standing (v : Nat) : Reading Standing := do
  let t ← tip v
  let k ← knot t.knot
  return {
    cost := (← costOf v) + (if t.isWaiting then skippedNodeCost else 0)
    since := ← sinceError v
    weight := k.weight
    isLost := t.isWaiting || k.station.isNone }

/-- Whether some reading that has come as far is better than the given one would be at some
cost. -/
def isBeaten (v cost : Nat) : Reading Bool := do
  if (← get).finished.any fun p => p.info.cost ≤ cost then return true
  else
    let k ← knotOf v
    let mine : Standing := { cost, since := ← sinceError v, weight := k.weight, isLost := false }
    (List.range (← tipCount)).anyM fun i => do
      let t ← tip i
      let other ← knot t.knot
      if i = v || !t.isActive || other.place.bytes < k.place.bytes then return false
      else
        match mine.prefer (← standing i) with
        | .onlySecond => return true
        | .second => return (← tip v).isActive && other.meets k
        | _ => return false

end Reading

end DefectScan.Grammar
