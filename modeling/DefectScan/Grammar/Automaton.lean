import DefectScan.Grammar.Action

/-!
# The automaton of a grammar

States that stand at the same items and differ only in what may follow are joined as far as their
actions agree and their tokens can be told apart. A state that can only complete a single part of
a group is passed over. What is left is the automaton that texts are read with.
-/

namespace DefectScan.Grammar

/-! ### Joining states -/

/-- A state before states are joined. -/
structure Candidate where
  /-- The items it stands at. -/
  core : List Nat
  /-- Its actions. -/
  row : Row
  /-- The tokens that have actions. -/
  tokens : TokenSet
  /-- The symbols that lead on, in order, and where to. -/
  moves : List (Nat × Nat)
  deriving Inhabited

/-- Tokens that must not join a state which has one of some others. -/
abbrev Clashes := List (Nat × TokenSet)

/-- Whether some token of the first set clashes with the second set, to which it does not
belong. -/
def Clashes.between (clashes : Clashes) (tokens other : TokenSet) : Bool :=
  clashes.any fun (token, against) =>
    tokens.has token && !other.has token && against &&& other != 0

/-- Whether two states with the same core have to stay apart. -/
def Candidate.isApart (clashes : Clashes) (a b : Candidate) : Bool :=
  a.row.disagrees b.row || clashes.between a.tokens b.tokens || clashes.between b.tokens a.tokens

/-- Whether a symbol that leads on from both states leads to different classes. -/
def partWays (classes : Array Nat) : (a b : List (Nat × Nat)) → Bool
  | (x, s) :: a, (y, t) :: b =>
    if x < y then partWays classes a ((y, t) :: b)
    else if y < x then partWays classes ((x, s) :: a) b
    else classes.getD s 0 != classes.getD t 0 || partWays classes a b
  | _, _ => false
  termination_by a b => a.length + b.length

/-- The moves of two states together; where both have one, that of the first. -/
def joinMoves : (a b : List (Nat × Nat)) → List (Nat × Nat)
  | (x, s) :: a, (y, t) :: b =>
    if x < y then (x, s) :: joinMoves a ((y, t) :: b)
    else if y < x then (y, t) :: joinMoves ((x, s) :: a) b
    else (x, s) :: joinMoves a b
  | [], b => b
  | a, [] => a
  termination_by a b => a.length + b.length

/-- Two states as one. -/
def Candidate.join (a b : Candidate) : Candidate :=
  { core := a.core
    row := a.row.union b.row
    tokens := a.tokens ||| b.tokens
    moves := joinMoves a.moves b.moves }

/-- States that are joined. -/
structure StateClass where
  /-- Their numbers, the latest first. -/
  members : List Nat
  /-- The states as one. -/
  joined : Candidate

/-- Take the states that agree with a class into it, and put the others aside. -/
def StateClass.takeIn (areApart : Candidate → Candidate → Bool) (candidates : Array Candidate) :
    StateClass → List Nat → StateClass × List Nat
  | kept, [] => (kept, [])
  | kept, s :: states =>
    let c := candidates.getD s default
    if areApart kept.joined c then
      let (kept, others) := takeIn areApart candidates kept states
      (kept, s :: others)
    else takeIn areApart candidates ⟨s :: kept.members, kept.joined.join c⟩ states

/-- The states that are put aside are no more than there are. -/
theorem StateClass.length_takeIn_le (areApart : Candidate → Candidate → Bool)
    (candidates : Array Candidate) (kept : StateClass) (states : List Nat) :
    (kept.takeIn areApart candidates states).2.length ≤ states.length := by
  induction states generalizing kept with
  | nil => simp [takeIn]
  | cons s states ih =>
    rw [takeIn]
    split
    · simpa using ih kept
    · exact Nat.le_trans (ih _) (Nat.le_succ _)

/-- Split states into classes whose members agree. -/
def splitClasses (areApart : Candidate → Candidate → Bool) (candidates : Array Candidate) :
    List Nat → List StateClass
  | [] => []
  | s :: states =>
    match _h : StateClass.takeIn areApart candidates ⟨[s], candidates.getD s default⟩ states with
    | (kept, others) => kept :: splitClasses areApart candidates others
  termination_by states => states.length
  decreasing_by
    have := StateClass.length_takeIn_le areApart candidates ⟨[s], candidates.getD s default⟩ states
    rw [_h] at this
    simpa using Nat.lt_succ_of_le this

/-- The classes that the states belong to. -/
def classNumbers (count : Nat) (classes : List StateClass) : Array Nat :=
  classes.zipIdx.foldl
    (fun numbers (c, n) =>
      c.members.foldl (fun numbers s => numbers.modify s fun _ => n) numbers)
    (Array.replicate count 0)

/-- Split classes further until the symbols lead the members of a class to the same classes. -/
def refineClasses (candidates : Array Candidate) : Nat → List StateClass → List StateClass
  | 0, classes => classes
  | bound + 1, classes =>
    let numbers := classNumbers candidates.size classes
    let refined := classes.flatMap fun c =>
      splitClasses (fun a b => partWays numbers a.moves b.moves) candidates c.members.reverse
    if refined.length = classes.length then classes
    else refineClasses candidates bound refined

/-! ### Groups of one part -/

namespace Items

/-- Whether completing an item only turns one part into a group. -/
def isPassing (items : Items) (i : Nat) : Bool :=
  let fact := items.fact i
  fact.size == 1 && fact.weight == 0 && fact.labels == [{}] && items.symbols.isGroup fact.head

/-- The group that a state turns a single part into, if it can do nothing else. -/
def passing? (items : Items) (row : Row) : Option Nat :=
  let completes := row.flatMap fun (_, action) => action.completes
  match completes with
  | i :: _ =>
    let head := (items.fact i).head
    if row.all (fun (_, a) => !a.isRead) &&
        completes.all (fun j => items.isPassing j && (items.fact j).head == head) then some head
    else none
  | [] => none

end Items

/-- Where a state leads to when the states that only pass on are skipped. -/
def skipPassing (passing : Array (Option Nat)) (moves : List (Nat × Nat)) : Nat → Nat → Nat
  | 0, state => state
  | bound + 1, state =>
    match passing.getD state none with
    | some group =>
      match moves.lookup group with
      | some next => skipPassing passing moves bound next
      | none => state
    | none => state

/-! ### The automaton -/

/-- A state of the automaton. -/
structure Station where
  /-- What the tokens do. -/
  row : Row
  /-- The tokens that do something. -/
  tokens : TokenSet
  /-- Where the symbols lead to. -/
  moves : Std.HashMap Nat Nat
  deriving Inhabited

/-- The automaton of a grammar. -/
structure Automaton where
  /-- The items. -/
  items : Items
  /-- The states; the first is the start. -/
  stations : Array Station

namespace Items

/-- Tokens that look alike stay apart, and a state in which a text may end is kept apart from
those in which it may not. -/
def clashes (items : Items) (lookalikes : List (List String)) : Clashes :=
  let count := items.symbols.terminalCount
  let everything := (List.range count).foldl (fun set t => set ||| TokenSet.single t) 0
  let number (name : String) : Nat :=
    (items.symbols.marks.get? name <|> items.symbols.named.get? name).getD 0
  (Symbols.finish, everything) :: lookalikes.flatMap fun names =>
    let numbers := names.map number
    let set := numbers.foldl (fun set t => set ||| TokenSet.single t) 0
    numbers.map fun t => (t, set)

/-- The states of a grammar with their actions, before states are joined. -/
def candidates (items : Items) : Array Candidate :=
  let states := items.states
  let rows := states.kernels.zipWith
    (fun kernel moves =>
      items.row kernel (moves.foldl (fun set (symbol, _) =>
        if symbol < items.symbols.terminalCount then set ||| TokenSet.single symbol else set) 0))
    states.moves
  let passing := rows.map items.passing?
  (Array.range states.kernels.size).map fun s =>
    let row := rows.getD s []
    let moves := states.moves.getD s []
    { core := (states.kernels.getD s []).map Prod.fst
      row
      tokens := row.tokens
      moves := moves.filterMap fun (symbol, next) =>
        if symbol < items.symbols.terminalCount && !(row.action? symbol).any (·.isRead) then none
        else some (symbol, skipPassing passing moves items.symbols.whole next) }

end Items

/-- States with the same core, in the order in which the cores first occur. -/
def coreClasses (candidates : Array Candidate) : List (List Nat) :=
  let (_, classes) := candidates.toList.zipIdx.foldl
    (fun (known, classes) (c, s) =>
      match (known : Std.HashMap (List Nat) Nat).get? c.core with
      | some n => (known, (classes : Array (List Nat)).modify n (s :: ·))
      | none => (known.insert c.core classes.size, classes.push [s]))
    ((∅ : Std.HashMap (List Nat) Nat), (#[] : Array (List Nat)))
  classes.toList.map List.reverse

/-- The automaton of a grammar. A text may be empty, though the rule for it is not. -/
def Rulebook.automaton (book : Rulebook) : Automaton :=
  let items := book.items
  let candidates := items.candidates
  let clashes := items.clashes book.lookalikes
  let classes := (coreClasses candidates).flatMap
    (splitClasses (Candidate.isApart clashes) candidates)
  let classes := refineClasses candidates candidates.size classes
  let numbers := classNumbers candidates.size classes
  let stations := (classes.map fun c =>
    { row := c.joined.row
      tokens := c.joined.tokens
      moves := Std.HashMap.ofList
        (c.joined.moves.map fun (symbol, next) => (symbol, numbers.getD next 0)) }).toArray
  { items
    stations := stations.modify 0 fun s =>
      { s with
        row := s.row.add (TokenSet.single Symbols.finish) { completes := [items.emptyText] }
        tokens := s.tokens ||| TokenSet.single Symbols.finish } }

end DefectScan.Grammar
