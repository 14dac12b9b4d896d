import DefectScan.Grammar.Reduction

/-!
# Going on after an error

A reading that cannot go on with the next token tries three things. It completes all items that
could be completed, whatever the next token. It takes a token to be missing, if the next token fits
behind it. And it searches for a place to go on: it returns to a state passed before, in which the
next token fits, and takes what has been read since as an error, or else it skips the token. All
of these cost, so that the readings can be compared.
-/

namespace DefectScan.Grammar

/-- What a text is read with. -/
structure Reader where
  /-- The automaton of the grammar. -/
  automaton : Automaton
  /-- How tokens are found. -/
  scanner : Scanner
  /-- The rest of the text from each byte on. -/
  rests : Array (List Char)

namespace Reader

/-- The symbols of the grammar. -/
def symbols (rd : Reader) : Symbols := rd.automaton.items.symbols

/-- The state of a number. -/
def station (rd : Reader) (n : Nat) : Station := rd.automaton.stations.getD n default

/-- What a token does in a state. -/
def action? (rd : Reader) (n token : Nat) : Option Action := (rd.station n).row.action? token

/-- A bound on the number of steps in a row. -/
def bound (rd : Reader) : Nat := 64 * (rd.rests.size + 64)

/-- The text from a place on. -/
def restAt (rd : Reader) (place : Extent) : List Char := rd.rests.getD place.bytes []

end Reader

/-- The number of readings that are kept at each token. -/
def maxReadings : Nat := 6

namespace Reading

/-! ### Completing whatever can be completed -/

/-- The items that some of the given tokens complete, one for each symbol and number of parts, and
whether one of the tokens can be read on. -/
def possibleActions (rd : Reader) (station : Option Nat) (tokens : List Nat) : List Nat × Bool :=
  match station with
  | none => ([], false)
  | some n =>
    let facts := rd.automaton.items.fact
    let isSame (i j : Nat) : Bool :=
      (facts i).head == (facts j).head && (facts i).size == (facts j).size
    tokens.foldl
      (fun (items, isRead) token =>
        match rd.action? n token with
        | none => (items, isRead)
        | some action =>
          let new := action.completes.filter fun i =>
            (facts i).size != 0 && (facts i).head != rd.symbols.whole
          (new.foldl (fun items i => if items.any (isSame i) then items else items ++ [i]) items,
            isRead || (action.isRead && !action.isRepeat)))
      ([], false)

/-- Complete items in a reading, and give the first new reading that the last of them led to. -/
def reduceAll (rd : Reader) (v : Nat) (items : List Nat) : Reading (Option Nat) :=
  items.foldlM (fun _ i => reduce rd.automaton v i) none

/-- Complete all items that can be completed before the given token or before any. Readings in which
the token cannot be read on are dropped. -/
def completeAll (rd : Reader) (first : Nat) (token : Option Nat) : Reading Bool := do
  let initial ← tipCount
  let tokens := (token.map fun t => [t]).getD ((List.range rd.symbols.terminalCount).drop 1)
  go initial tokens rd.bound 0 first false
where
  /-- Go on with a reading after the given number of rounds. -/
  go (initial : Nat) (tokens : List Nat) : Nat → Nat → Nat → Bool → Reading Bool
    | 0, _, _, canRead => return canRead
    | bound + 1, round, v, canRead => do
      let count ← tipCount
      if count ≤ v then return canRead
      else if ← mergeInto rd.symbols v ((List.range v).drop initial) then
        go initial tokens bound (round + 1) v canRead
      else
        let (items, isRead) := possibleActions rd (← knotOf v).station tokens
        let new ← reduceAll rd v items
        let next := if v = first then count else v + 1
        if isRead then go initial tokens bound (round + 1) next true
        else
          match new.filter fun _ => round < maxReadings with
          | some n => do
            replaceTip n v
            go initial tokens bound (round + 1) v canRead
          | none => do
            if token.isSome then removeTip v
            go initial tokens bound (round + 1) next canRead

/-! ### Missing tokens -/

/-- Whether a token first of all completes an item in a state. -/
def completesIn (rd : Reader) (n token : Nat) : Bool :=
  (rd.action? n token).any fun action =>
    action.completes.head?.any (· ≠ rd.automaton.items.emptyText)

/-- Take one of the given tokens to be missing, so that the next token fits. Tells whether one was
found. -/
def supplyMissing (rd : Reader) (v next : Nat) (place : Extent) : List Nat → Reading Bool
  | [] => return false
  | token :: tokens => do
    let station := (← knotOf v).station
    let after := station.bind fun n =>
      ((rd.station n).moves.get? token).filter fun m => m ≠ n && completesIn rd m next
    match after with
    | none => supplyMissing rd v next place tokens
    | some m =>
      let new ← openTip (← tip v).knot v
      push rd.symbols new (some (Piece.missing token place.bytes)) (some m)
      if ← completeAll rd new (some next |>.filter (· ≠ Symbols.finish)) then return true
      else supplyMissing rd v next place tokens

/-! ### Returning and skipping -/

/-- How far back a reading may return. -/
def maxDepth : Nat := 16

/-- Whether a state at some depth is among those found so far, the latest first. -/
def isKnownLandmark (station : Option Nat) (depth : Nat) : List Landmark → Bool
  | [] => false
  | l :: ls =>
    if l.depth < depth then false
    else (l.depth = depth && l.station = station) || isKnownLandmark station depth ls

/-- Note the states that a reading may return to. -/
def noteLandmarks (v : Nat) : Reading Unit := do
  let knots := (← get).knots
  let found ← follow v
    (fun (found : List Landmark) p =>
      let k := knots.getD p.knot default
      if maxDepth < p.depth then (found, true)
      else if isKnownLandmark k.station p.depth found then (found, false)
      else (⟨k.place, p.depth, k.station⟩ :: found, false)) []
  modifyTip v fun t => { t with landmarks := found.reverse }

/-- Return to a state that lies some pieces back, and take them as an error. An error that lies
right before is taken in. -/
def returnTo (rd : Reader) (v depth goal : Nat) : Reading Bool := do
  let mut isDone := false
  for (k, ways) in ← behind v depth do
    let here ← knot k
    if here.station = some goal then
      let new ← openTip k v
      let before := here.links.find? fun l => l.piece.any Piece.isError
      if let some l := before then
        modifyTip new fun t => { t with knot := l.back }
      let earlier := ((before.bind Link.piece).map Piece.parts).getD []
      let (parts, extras) := Piece.splitExtras (earlier ++ ways.head?.getD [])
      if !parts.isEmpty then
        let error := Piece.join rd.symbols .error [] parts here.place.bytes
        push rd.symbols new (some error.asExtra) (some goal)
      for extra in extras do
        push rd.symbols new (some extra) (some goal)
      isDone := true
  return isDone

/-- Return to the first of the given states in which the token fits, unless another reading is
better by then. -/
def tryLandmarks (rd : Reader) (v token cost : Nat) (hasSkipped : Bool) :
    List Landmark → Reading Bool
  | [] => return false
  | l :: ls => do
    let place := (← knotOf v).place
    match l.station with
    | none => tryLandmarks rd v token cost hasSkipped ls
    | some goal =>
      let isTaken ← (List.range (← tipCount)).anyM fun j => do
        let k ← knotOf j
        return k.station = some goal && k.place.bytes = place.bytes
      if l.place.bytes = place.bytes || isTaken then tryLandmarks rd v token cost hasSkipped ls
      else
        let skipped : Extent := ⟨place.bytes - l.place.bytes, place.lines - l.place.lines⟩
        if ← isBeaten v (cost + l.depth * skippedNodeCost + skipped.skippingCost) then return false
        else if (rd.station goal).tokens.has token then
          if ← returnTo rd v (l.depth + if hasSkipped then 1 else 0) goal then return true
          else tryLandmarks rd v token cost hasSkipped ls
        else tryLandmarks rd v token cost hasSkipped ls

/-- Skip a token, together with those that have been skipped right before it. -/
def skip (rd : Reader) (v : Nat) (token : Token) (hasSkipped : Bool) : Reading Unit := do
  let start := (← knotOf v).place.bytes + token.gap.bytes
  let isExtra := token.symbol = some rd.scanner.comment
  let skipped := Piece.join rd.symbols .skipped [] [Piece.ofToken token start isExtra] start
  let before ← behind v 1
  match before.head?.filter fun _ => hasSkipped with
  | some (k, ways) =>
    modifyTip v fun t => { t with knot := k }
    let all := Piece.join rd.symbols .skipped [] (ways.head?.getD [] ++ [skipped]) start
    push rd.symbols v (some all) none
  | none => push rd.symbols v (some skipped) none

/-- Search for a place to go on with a token: return to a state in which it fits, or skip it. The
end of the text ends the search. -/
def recover (rd : Reader) (v : Nat) (token : Token) : Reading Unit := do
  let hasSkipped := 0 < (← sinceError v)
  let cost ← costOf v
  let hasReturned ←
    match token.symbol with
    | some t => tryLandmarks rd v t cost hasSkipped (← tip v).landmarks
    | none => pure false
  if token.symbol = some Symbols.finish then
    let place := (← knotOf v).place.bytes
    push rd.symbols v (some (Piece.join rd.symbols .error [] [] place)) none
    accept rd.symbols v
  else if hasReturned && maxReadings < (← tipCount) then endTip v
  else
    let skipped := cost + skippedNodeCost + (token.gap + token.size).skippingCost
    if ← isBeaten v skipped then endTip v else skip rd v token hasSkipped

/-- Let a reading go on though it cannot go on with the given token. -/
def handleError (rd : Reader) (v : Nat) (token : Token) : Reading Unit := do
  let initial ← tipCount
  let _ ← completeAll rd v none
  let count ← tipCount
  let place := (← knotOf v).place
  let candidates := (List.range rd.symbols.terminalCount).drop 1
  let mut isSupplied := false
  for w in v :: (List.range count).drop initial do
    if let some next := token.symbol then
      if !isSupplied then
        isSupplied ← supplyMissing rd w next place candidates
    push rd.symbols w none none
  for _ in (List.range count).drop initial do
    let _ ← merge rd.symbols v initial
  noteLandmarks v
  recover rd v token

end Reading

end DefectScan.Grammar
