import DefectScan.Grammar.Recovery

/-!
# Reading a text

All open readings advance token by token. After each round they are compared: those that meet are
merged, those that are much worse are given up, and a reading that waits goes on only if there is
no other. The text has been read when some reading is complete and no open one is better.
-/

namespace DefectScan.Grammar

namespace Reading

/-! ### One step -/

/-- Advance a reading over a token, completing items before it. A word that does not fit as itself
is taken as a name. -/
def advanceOver (rd : Reader) (v : Nat) : Nat → Token → Reading Unit
  | 0, _ => endTip v
  | bound + 1, token => do
    let k ← knotOf v
    let piece (isExtra : Bool) : Piece :=
      Piece.ofToken token (k.place.bytes + token.gap.bytes) isExtra
    if token.symbol = some rd.scanner.comment then
      push rd.symbols v (some (piece true)) k.station
    else
      match k.station with
      | none => recover rd v token
      | some n =>
        let action := (token.symbol.bind (rd.action? n)).getD {}
        let isWhole := action.completes.any fun i =>
          (rd.automaton.items.fact i).head == rd.symbols.whole
        if isWhole then accept rd.symbols v
        else
          let mut last := none
          for i in action.completes do
            last := (← reduce rd.automaton v i) <|> last
          if action.isRead && !action.isRepeat then
            push rd.symbols v (some (piece false))
              (token.symbol.bind fun t => (rd.station n).moves.get? t)
          else
            match last with
            | some new =>
              replaceTip new v
              advanceOver rd v bound token
            | none =>
              if token.isWord && token.symbol ≠ some Symbols.name &&
                  (rd.station n).tokens.has Symbols.name then
                advanceOver rd v bound { token with symbol := some Symbols.name }
              else modifyTip v fun t => { t with status := .waiting token }

/-- Advance a reading by one token. -/
def advance (rd : Reader) (v : Nat) : Reading Unit := do
  let k ← knotOf v
  let token := rd.scanner.next (k.station.map fun n => (rd.station n).tokens) (rd.restAt k.place)
  advanceOver rd v rd.bound token

/-- Advance a reading until it has caught up with the others, and give the place that the furthest
has come to. -/
def catchUp (rd : Reader) (v : Nat) : Nat → Nat → Reading Nat
  | 0, furthest => return furthest
  | bound + 1, furthest => do
    if (← tip v).isActive then
      advance rd v
      let place := (← knotOf v).place.bytes
      if furthest < place || (0 < v && place = furthest) then return place
      else catchUp rd v bound furthest
    else return furthest

/-- Advance the readings from the given one on, also those that arise on the way. -/
def advanceFrom (rd : Reader) : Nat → Nat → Nat → Reading Nat
  | 0, _, furthest => return furthest
  | bound + 1, v, furthest => do
    if v < (← tipCount) then advanceFrom rd bound (v + 1) (← catchUp rd v rd.bound furthest)
    else return furthest

/-! ### Comparing the readings -/

/-- Compare a reading, which stands as given, with the ones before it, from one of them on. Gives
the number of the next reading to compare. -/
def compareWith (s : Symbols) (mine : Standing) : (left : Nat) → (other v : Nat) → Reading Nat
  | 0, _, v => return v + 1
  | left + 1, other, v => do
    match (← standing other).prefer mine with
    | .onlyFirst =>
      removeTip v
      return v
    | .onlySecond =>
      removeTip other
      compareWith s mine left other (v - 1)
    | .second =>
      if ← merge s other v then return v
      else
        modify fun r => { r with tips := r.tips.swapIfInBounds v other }
        compareWith s mine left (other + 1) v
    | _ =>
      if ← merge s other v then return v else compareWith s mine left (other + 1) v

/-- Compare the readings that are left with those before them. Gives the least cost of a reading
that is not searching for a place to go on. -/
def compareAll (s : Symbols) : (left : Nat) → (v : Nat) → Option Nat → Reading (Option Nat)
  | 0, _, least => return least
  | left + 1, v, least => do
    if (← tip v).isEnded then
      removeTip v
      compareAll s left v least
    else
      let mine ← standing v
      let least := if mine.isLost then least else some ((least.map (min mine.cost)).getD mine.cost)
      compareAll s left (← compareWith s mine v 0 v) least

/-- Let the first reading that waits go on if none before it does, and drop the others that wait.
Gives the least cost. -/
def resume (rd : Reader) : (left : Nat) → (v : Nat) → (isOpen : Bool) → Option Nat →
    Reading (Option Nat)
  | 0, _, _, least => return least
  | left + 1, v, isOpen, least => do
    match (← tip v).status with
    | .waiting token =>
      if !isOpen && (← get).completed < maxReadings then
        let cost ← costOf v
        modifyTip v fun t => { t with status := .active }
        handleError rd v token
        resume rd left (v + 1) true (some cost)
      else
        removeTip v
        resume rd left v isOpen least
    | _ => resume rd left (v + 1) true least

/-- Compare the readings and keep the best. Gives the least cost of those that are open. -/
def condense (rd : Reader) : Reading (Option Nat) := do
  let least ← compareAll rd.symbols (← tipCount) 0 none
  modify fun r => { r with tips := r.tips.take maxReadings }
  resume rd (← tipCount) 0 false least

/-! ### The whole text -/

/-- Advance round by round until the best reading is complete or none is left. -/
def rounds (rd : Reader) : Nat → Nat → Reading Unit
  | 0, _ => return
  | bound + 1, furthest => do
    let furthest ← advanceFrom rd rd.bound 0 furthest
    let least ← condense rd
    let r ← get
    let isDone := r.finished.any fun p => least.all fun cost => p.info.cost < cost
    if !isDone && !r.tips.isEmpty then rounds rd bound furthest

end Reading

/-- The best reading of the text. -/
def Reader.read (rd : Reader) : Option Piece :=
  ((Reading.rounds rd rd.bound 0).run Readings.atStart).2.finished

end DefectScan.Grammar
